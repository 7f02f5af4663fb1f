import ProfileGuard.Tasks
import ProfileGuard.Time.Duration

/-!
# Simulated time

A script drives a system along a clock.  Code takes no time: at each instant everything that can happen
does happen, and only waiting moves the clock, from one instant at which something is due to the next.

* **`Simulation`** — a system: how tasks begin, what can happen without waiting, and what is due when.
* **`Simulation.settle`** — everything that can happen at an instant.
* **`Simulation.advance`** — the passing of time.
* **`Simulation.run`** — a whole script, with one entry for each of its steps.
-/

namespace ProfileGuard

/-- A system with state `σ` whose tasks have requests `κ` and replies `ρ`, and which reports `τ`. -/
structure Simulation (σ κ ρ τ : Type) where
  /-- A task begins with a request. -/
  launch : Instant → TaskId → κ → σ → σ
  /-- One thing that can happen at an instant without waiting; a task that the script itself waits for
  goes before all others. -/
  act? : Option TaskId → Instant → σ → Option σ
  /-- Instants at which something is due. -/
  dues : σ → List Instant
  /-- What a task has replied, once it is over. -/
  reply? : σ → TaskId → Option ρ
  /-- A task is abandoned where it waits. -/
  abandon : Instant → TaskId → σ → σ
  /-- What the system shows after a step; what is shown once may be forgotten. -/
  report : Instant → σ → σ × τ

namespace Simulation

/-- A step of a script.  Tasks that run beside the script have names. -/
inductive Step (κ : Type) where
  | wait (time : Duration)
  | perform (request : κ)
  | spawn (name : String) (request : κ)
  | join (name : String)
  | abort (name : String)

/-- The answer to a step. -/
inductive Answer (ρ : Type) where
  /-- The wait is over. -/
  | done
  /-- The task runs beside the script. -/
  | spawned
  /-- What the task replied. -/
  | reply (value : ρ)
  /-- The task was abandoned before its end. -/
  | aborted
  /-- There is no task of that name. -/
  | noSuchTask

/-- One step's answer, the instant after the step, and the report then. -/
structure Entry (ρ τ : Type) where
  answer : Answer ρ
  time : Instant
  report : τ

/-- A script under way. -/
structure Progress (σ : Type) where
  state : σ
  now : Instant := 0
  /-- The named tasks that are not yet joined. -/
  names : List (String × TaskId) := []
  /-- The number for the next task. -/
  next : TaskId := 0

/-- The order in which tasks with numbers below `bound` get their turn. -/
def turns (first : Option TaskId) (bound : TaskId) : List TaskId :=
  first.toList ++ List.range bound

variable {σ κ ρ τ : Type} (sim : Simulation σ κ ρ τ)

/-- At most `fuel` things that can happen at an instant, until nothing can. -/
def settle (first : Option TaskId) (now : Instant) : (fuel : Nat) → σ → σ
  | 0, s => s
  | fuel + 1, s =>
    match sim.act? first now s with
    | none => s
    | some s => settle first now fuel s

/-- The first instant from now on at which something is due. -/
def nextDue? (now : Instant) (s : σ) : Option Instant :=
  ((sim.dues s).filter (now < ·)).min?

/-- The state when the clock has moved from `now` to `target`; at each instant on the way at most `fuel`
things happen. -/
def advance (fuel : Nat) (now target : Instant) (s : σ) : σ :=
  match sim.nextDue? now s with
  | none => s
  | some due =>
    if _h : now < due ∧ due ≤ target then advance fuel due target (sim.settle none due fuel s) else s
termination_by target - now
decreasing_by exact Nat.sub_lt_sub_left (Nat.lt_of_lt_of_le _h.1 _h.2) _h.1

/-- Waits until a task is over, for at most `rounds` instants; gives the instant and the state. -/
def await (first : Option TaskId) (fuel : Nat) (id : TaskId) :
    (rounds : Nat) → Instant → σ → Instant × σ
  | 0, now, s => (now, s)
  | rounds + 1, now, s =>
    match sim.reply? s id, sim.nextDue? now s with
    | none, some due => await first fuel id rounds due (sim.settle first due fuel s)
    | _, _ => (now, s)

/-- The answer of a task that was waited for. -/
def answerOf (s : σ) (id : TaskId) : Answer ρ :=
  match sim.reply? s id with
  | some value => .reply value
  | none => .noSuchTask

/-- Waits for a task and answers with its reply. -/
def finish (first : Option TaskId) (fuel : Nat) (id : TaskId) (p : Progress σ) :
    Progress σ × Answer ρ :=
  let (now, state) := sim.await first fuel id fuel p.now p.state
  ({ p with now, state }, sim.answerOf state id)

/-- Takes up a new task. -/
def take (fuel : Nat) (request : κ) (p : Progress σ) : Progress σ :=
  { p with
    state := sim.settle (some p.next) p.now fuel (sim.launch p.now p.next request p.state)
    next := p.next + 1 }

/-- A named task and the names without it. -/
def pick (name : String) (p : Progress σ) : Option TaskId × Progress σ :=
  (p.names.lookup name, { p with names := p.names.filter (·.1 != name) })

/-- One step of a script. -/
def perform (fuel : Nat) (p : Progress σ) : Step κ → Progress σ × Answer ρ
  | .wait time =>
    ({ p with
        state := sim.advance fuel p.now (p.now + time) p.state
        now := p.now + time }, .done)
  | .perform request => sim.finish (some p.next) fuel p.next (sim.take fuel request p)
  | .spawn name request =>
    let p := sim.take fuel request { p with names := (name, p.next) :: p.names }
    (p, .spawned)
  | .join name =>
    match pick name p with
    | (some id, p) => sim.finish none fuel id p
    | (none, p) => (p, .noSuchTask)
  | .abort name =>
    match pick name p with
    | (some id, p) =>
      match sim.reply? p.state id with
      | some value => (p, .reply value)
      | none =>
        ({ p with state := sim.settle none p.now fuel (sim.abandon p.now id p.state) }, .aborted)
    | (none, p) => (p, .noSuchTask)

/-- One step of a script with the entry for it. -/
def enter (fuel : Nat) (p : Progress σ) (step : Step κ) : Progress σ × Entry ρ τ :=
  let (p, answer) := sim.perform fuel p step
  let (state, report) := sim.report p.now p.state
  ({ p with state }, ⟨answer, p.now, report⟩)

/-- The entries for all steps of a script. -/
def entries (fuel : Nat) : Progress σ → List (Step κ) → List (Entry ρ τ)
  | _, [] => []
  | p, step :: steps =>
    let (p, entry) := sim.enter fuel p step
    entry :: entries fuel p steps

/-- A bound on what can happen at one instant, and on the instants at which something happens while a
task is waited for: every task of a script of `length` steps handles every other one a few times. -/
def patience (length : Nat) : Nat := 16 * ((length + 2) * (length + 2))

/-- The entries for a whole script, from a state at the clock's start. -/
def run (state : σ) (script : List (Step κ)) : List (Entry ρ τ) :=
  sim.entries (patience script.length) { state } script

end Simulation

end ProfileGuard
