import ProfileGuard.Simulation

/-!
# The entries of a script

A script is run step by step, and the entry of each step is made from where the steps before it have led.

* **`Simulation.Step.map`** — a step with another request.
* **`Simulation.progress`** — where the steps of a script lead.
* **`Simulation.entries_getElem?`** — the entry of a step, from the progress before it.
* **`Simulation.settle_of_none`**, **`Simulation.await_of_reply`** — where nothing is left to happen.
* **`Simulation.advance_of_due`**, **`Simulation.advance_of_idle`** — the passing of time.
-/

namespace ProfileGuard.Simulation

variable {σ κ κ' ρ τ : Type}

/-- A step with another request. -/
def Step.map (f : κ → κ') : Step κ → Step κ'
  | .wait time => .wait time
  | .perform request => .perform (f request)
  | .spawn name request => .spawn name (f request)
  | .join name => .join name
  | .abort name => .abort name

variable (sim : Simulation σ κ ρ τ)

/-- Where the steps of a script lead. -/
def progress (fuel : Nat) (p : Progress σ) (steps : List (Step κ)) : Progress σ :=
  steps.foldl (fun p step => (sim.enter fuel p step).1) p

/-- The entry of a step, from the progress before it. -/
theorem entries_getElem? (fuel : Nat) (p : Progress σ) (steps : List (Step κ)) (i : Nat) :
    (sim.entries fuel p steps)[i]? =
      steps[i]?.map fun step => (sim.enter fuel (sim.progress fuel p (steps.take i)) step).2 := by
  induction steps generalizing p i with
  | nil => rfl
  | cons step steps ih =>
    cases i with
    | zero => rfl
    | succ i => exact ih (sim.enter fuel p step).1 i

variable {sim} {first : Option TaskId} {now : Instant} {s : σ}

/-- Nothing happens where nothing can. -/
theorem settle_of_none (h : sim.act? first now s = none) (fuel : Nat) :
    sim.settle first now fuel s = s := by
  cases fuel with
  | zero => rfl
  | succ fuel => rw [settle, h]

/-- One thing happens, and then nothing else can. -/
theorem settle_of_some {later : σ} (h : sim.act? first now s = some later)
    (last : sim.act? first now later = none) {fuel : Nat} (hfuel : 0 < fuel) :
    sim.settle first now fuel s = later := by
  obtain ⟨fuel, rfl⟩ := Nat.exists_eq_add_one.mpr hfuel
  rw [settle, h]
  exact settle_of_none last fuel

/-- Nobody waits for a task that is over. -/
theorem await_of_reply {id : TaskId} {value : ρ} (h : sim.reply? s id = some value)
    (fuel rounds : Nat) : sim.await first fuel id rounds now s = (now, s) := by
  cases rounds with
  | zero => rfl
  | succ rounds => simp only [await, h]

/-! ### The passing of time -/

variable {due target : Instant} {fuel : Nat}

/-- The passing of time up to the first instant at which something is due, and on from there. -/
theorem advance_of_due (h : sim.nextDue? now s = some due) (hlt : now < due) (hle : due ≤ target) :
    sim.advance fuel now target s = sim.advance fuel due target (sim.settle none due fuel s) := by
  rw [advance, h]
  exact dif_pos ⟨hlt, hle⟩

/-- Nothing happens while nothing is due. -/
theorem advance_of_idle (h : ∀ due, sim.nextDue? now s = some due → target < due) :
    sim.advance fuel now target s = s := by
  rw [advance]
  split
  · rfl
  · rename_i due hdue
    exact dif_neg fun hle => Nat.not_lt.mpr hle.2 (h due hdue)

/-- Something can happen in every script. -/
theorem patience_pos (length : Nat) : 0 < patience length := by
  unfold patience
  exact Nat.mul_pos (by decide) (Nat.mul_pos (Nat.succ_pos _) (Nat.succ_pos _))

end ProfileGuard.Simulation
