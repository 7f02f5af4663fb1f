import Mathlib.Data.List.Forall2
import ProfileGuard.Breaker.Registry
import ProfileGuard.Proofs.Breaker.Touches
import ProfileGuard.Proofs.Breaker.Watching

/-!
# Breakers side by side

Each dependency has a breaker of its own, and a call on one breaker touches no other.  What ties them
together are the questions about all of them.  The question after their phases looks at every breaker.  The
question after their health looks at one after the other and stops at the first that is open, so calls on
one dependency decide whether it looks at the next.  A look goes unnoticed unless it begins a new window;
so this is all that calls on the others can do to a breaker.

* **`Breaker.Registry.step`** / **`Breaker.Registry.run`** — what can happen to the breakers of a registry.
* **`Breaker.Registry.step_apply`** — what a step does at one breaker.
* **`Breaker.Registry.rounds`** — how far the questions after health come.
* **`Breaker.Registry.beside_unnoticed`** — calls on the others go unnoticed, if the questions that begin
  a window come as far without them.
* **`Breaker.Registry.opened_beside_noticed`** — an open breaker that keeps such a question away.
-/

namespace ProfileGuard.Breaker.Registry

/-- What can happen to the breakers of a registry. -/
inductive Label where
  /-- Something happens at the breaker of one dependency. -/
  | on (line : Dependency) (event : Event)
  /-- Someone asks for the phase of every breaker. -/
  | status
  /-- Someone asks whether no breaker is open. -/
  | health

/-- One step at an instant. -/
def step (now : Instant) (r : Registry) : Label → Registry
  | .on line event => Switchboard.setLine line ((r line).step now event) r
  | .status => (r.status now).1
  | .health => (r.isHealthy now).1

/-- A run of steps, each at its instant. -/
def run (r : Registry) (steps : List (Instant × Label)) : Registry :=
  steps.foldl (fun r s => r.step s.1 s.2) r

/-- Whether a step is a call on a dependency or a question about all of them. -/
def Label.concerns (d : Dependency) : Label → Bool
  | .on line _ => line = d
  | .status | .health => true

/-- The steps of a run that are calls on a dependency or questions about all of them. -/
def concerning (d : Dependency) (steps : List (Instant × Label)) : List (Instant × Label) :=
  steps.filter fun s => s.2.concerns d

/-- The steps of a run until an instant. -/
def upTo (now : Instant) (steps : List (Instant × Label)) : List (Instant × Label) :=
  steps.filter fun s => s.1 ≤ now

/-- Time does not go back in a run that begins at an instant. -/
def InOrder (began : Instant) (steps : List (Instant × Label)) : Prop :=
  (began :: steps.map Prod.fst).Pairwise (· ≤ ·)

instance (began : Instant) (steps : List (Instant × Label)) : Decidable (InOrder began steps) :=
  inferInstanceAs (Decidable (List.Pairwise _ _))

/-- Whether the question after health comes as far as a breaker: none before it is found open. -/
def reaches (now : Instant) (r : Registry) (d : Dependency) : Bool :=
  (Dependency.all.takeWhile (· ≠ d)).all fun other => ((r other).found now).phase ≠ .opened

/-- How a question after health fares at one breaker. -/
structure Round where
  /-- Whether it comes as far as this breaker. -/
  reached : Bool
  /-- Whether it begins a new window there. -/
  begins : Bool

/-- A question after health asked in two runs: it comes as far in both, or it begins no new window in
either. -/
def Round.Agrees (a b : Round) : Prop := a.reached = b.reached ∨ (a.begins = false ∧ b.begins = false)

instance (a b : Round) : Decidable (a.Agrees b) := inferInstanceAs (Decidable (_ ∨ _))

/-- How the questions after health fare at one breaker along a run. -/
def rounds (d : Dependency) (r : Registry) : List (Instant × Label) → List Round
  | [] => []
  | (now, .health) :: steps =>
    ⟨r.reaches now d, r.reaches now d && (r d).breaker.circuit.isWindowOver now⟩
      :: rounds d (r.step now .health) steps
  | (now, label) :: steps => rounds d (r.step now label) steps

variable {r other : Registry} {d : Dependency} {now began later : Instant} {label : Label}
  {steps : List (Instant × Label)}

/-! ### What a step does at one breaker -/

theorem found_look_phase (t : Traffic) (now : Instant) :
    (t.step now .observe).breaker.circuit.phase = (t.found now).phase := by
  show (t.breaker.poll now).circuit.phase = _
  rw [poll_eq]

/-- The question after health looks at a breaker if it finds none open before it. -/
theorem noneOpen_apply (now : Instant) (d : Dependency) (lines : List Dependency)
    (own : lines.Nodup) (r : Registry) :
    (noneOpen now lines r).1 d =
      if d ∈ lines ∧ (lines.takeWhile (· ≠ d)).all fun other => ((r other).found now).phase ≠ .opened
      then (r d).step now .observe else r d := by
  induction lines generalizing r with
  | nil => rfl
  | cons line lines ih =>
    rw [List.nodup_cons] at own
    by_cases hline : line = d
    · subst hline
      have hlooked : ∀ r' : Registry, r' line = (r line).step now .observe →
          (noneOpen now lines r').1 line = (r line).step now .observe := by
        intro r' hr'
        rw [ih own.2, if_neg fun h => own.1 h.1, hr']
      simp only [noneOpen]
      split
      · simp [Switchboard.setLine]
      · rw [hlooked _ (by simp [Switchboard.setLine])]
        simp
    · have hd : d ≠ line := fun h => hline h.symm
      simp only [noneOpen, found_look_phase]
      split
      · rename_i hopened
        simp [Switchboard.setLine, hline, hd, hopened]
      · rename_i hpassed
        have hsame : ∀ other ∈ lines.takeWhile (· ≠ d),
            (Switchboard.setLine line ((r line).step now .observe) r) other = r other := by
          intro other hmem
          have hother : other ≠ line := fun h =>
            own.1 (h ▸ (List.takeWhile_sublist _).subset hmem)
          simp [Switchboard.setLine, hother]
        have hpass : ((lines.takeWhile (· ≠ d)).all fun other =>
              (((Switchboard.setLine line ((r line).step now .observe) r) other).found now).phase ≠
                .opened) =
            (lines.takeWhile (· ≠ d)).all fun other => ((r other).found now).phase ≠ .opened := by
          rw [Bool.eq_iff_iff, List.all_eq_true, List.all_eq_true]
          exact forall₂_congr fun other hmem => by rw [hsame other hmem]
        rw [ih own.2, hpass]
        simp [Switchboard.setLine, hline, hd, hpassed]

/-- What happens at one breaker by a step. -/
def seen? (now : Instant) (r : Registry) (d : Dependency) : Label → Option Event
  | .on line event => if line = d then some event else none
  | .status => some .observe
  | .health => if r.reaches now d then some .observe else none

/-- A step does at one breaker what that breaker sees of it, and nothing else. -/
theorem step_apply (now : Instant) (r : Registry) (d : Dependency) (label : Label) :
    r.step now label d = match r.seen? now d label with
      | some event => (r d).step now event
      | none => r d := by
  cases label with
  | on line event =>
    by_cases hline : line = d
    · subst hline
      simp [step, seen?, Switchboard.setLine]
    · have hd : d ≠ line := fun h => hline h.symm
      simp [step, seen?, Switchboard.setLine, hline, hd]
  | status => rfl
  | health =>
    have hall : d ∈ Dependency.all := by cases d <;> decide
    show (noneOpen now Dependency.all r).1 d = _
    rw [noneOpen_apply now d Dependency.all (by decide) r]
    by_cases hreached : r.reaches now d = true
    · rw [if_pos ⟨hall, hreached⟩]
      simp [seen?, hreached]
    · rw [if_neg fun h => hreached h.2]
      simp [seen?, hreached]

theorem step_apply_of_not_concerns (h : label.concerns d = false) : r.step now label d = r d := by
  cases label with
  | on line event =>
    have hline : line ≠ d := by simpa [Label.concerns] using h
    rw [step_apply]
    simp [seen?, hline]
  | status | health => cases h

/-! ### Runs -/

theorem run_cons (r : Registry) (s : Instant × Label) (steps : List (Instant × Label)) :
    r.run (s :: steps) = (r.step s.1 s.2).run steps := rfl

theorem run_append (r : Registry) (before after : List (Instant × Label)) :
    r.run (before ++ after) = (r.run before).run after := List.foldl_append

theorem rounds_cons (r : Registry) (s : Instant × Label) (steps : List (Instant × Label)) :
    r.rounds d (s :: steps) = r.rounds d [s] ++ (r.step s.1 s.2).rounds d steps := by
  obtain ⟨now, label⟩ := s
  cases label <;> rfl

theorem rounds_append (r : Registry) (before after : List (Instant × Label)) :
    r.rounds d (before ++ after) = r.rounds d before ++ (r.run before).rounds d after := by
  induction before generalizing r with
  | nil => rfl
  | cons s before ih =>
    rw [List.cons_append, rounds_cons, rounds_cons r s before, ih, List.append_assoc]
    rfl

/-- Every question after health is a step that concerns every breaker. -/
theorem rounds_of_not_concerns (h : ∀ s ∈ steps, s.2.concerns d = false) : r.rounds d steps = [] := by
  induction steps generalizing r with
  | nil => rfl
  | cons s steps ih =>
    have hfirst := h s List.mem_cons_self
    obtain ⟨now, label⟩ := s
    cases label with
    | on line event => exact ih fun s' hs' => h s' (List.mem_cons_of_mem _ hs')
    | status | health => cases hfirst

/-- Steps that do not concern a breaker leave it as it is. -/
theorem run_apply_of_not_concerns (h : ∀ s ∈ steps, s.2.concerns d = false) : r.run steps d = r d := by
  induction steps generalizing r with
  | nil => rfl
  | cons s steps ih =>
    rw [run_cons, ih fun s' hs' => h s' (List.mem_cons_of_mem _ hs'),
      step_apply_of_not_concerns (h s List.mem_cons_self)]

theorem rounds_skip {before after : List (Instant × Label)} {s : Instant × Label}
    (h : ∀ s ∈ before, s.2.concerns d = false) :
    r.rounds d (before ++ s :: after) =
      (r.run before).rounds d [s] ++ ((r.run before).step s.1 s.2).rounds d after := by
  rw [rounds_append, rounds_of_not_concerns h, List.nil_append, rounds_cons]

/-- As many rounds as there are questions after health among the steps that concern a breaker. -/
theorem length_rounds (r : Registry) (steps : List (Instant × Label)) :
    (r.rounds d steps).length = (concerning d steps).countP fun s => s.2 matches .health := by
  induction steps generalizing r with
  | nil => rfl
  | cons s steps ih =>
    rw [rounds_cons, List.length_append, ih, Nat.add_comm]
    obtain ⟨now, label⟩ := s
    cases label with
    | on line event =>
      by_cases hline : line = d <;> simp [concerning, Label.concerns, hline, rounds]
    | status => simp [concerning, Label.concerns, rounds]
    | health => simp [concerning, Label.concerns, rounds]

theorem inOrder_append {before after : List (Instant × Label)} {s : Instant × Label}
    (h : InOrder began (before ++ s :: after)) : began ≤ s.1 ∧ InOrder s.1 after := by
  rw [InOrder, List.pairwise_cons, List.map_append, List.pairwise_append, List.map_cons] at h
  exact ⟨h.1 s.1 (by simp), h.2.2.1⟩

/-- The steps until an instant come before all others. -/
theorem upTo_append (h : InOrder began steps) (now : Instant) :
    ∃ after, steps = upTo now steps ++ after := by
  induction steps generalizing began with
  | nil => exact ⟨[], rfl⟩
  | cons s steps ih =>
    have hrest : InOrder s.1 steps := (inOrder_append (show InOrder began ([] ++ s :: steps) from h)).2
    by_cases hnow : s.1 ≤ now
    · obtain ⟨after, hafter⟩ := ih hrest
      refine ⟨after, ?_⟩
      rw [upTo, List.filter_cons_of_pos (by simpa using hnow), List.cons_append]
      exact congrArg (s :: ·) hafter
    · refine ⟨s :: steps, ?_⟩
      have hnone : upTo now (s :: steps) = [] := by
        refine List.filter_eq_nil_iff.mpr fun s' hs' => ?_
        have hle : s.1 ≤ s'.1 := by
          rcases List.mem_cons.mp hs' with rfl | hlater
          · exact le_refl _
          · rw [InOrder, List.pairwise_cons] at hrest
            exact hrest.1 s'.1 (List.mem_map_of_mem hlater)
        simpa using fun hle' => hnow (hle.trans hle')
      rw [hnone, List.nil_append]

theorem forall₂_of_append {α : Type} {R : α → α → Prop} {a b c d : List α}
    (h : List.Forall₂ R (a ++ b) (c ++ d)) (length : a.length = c.length) :
    List.Forall₂ R a c ∧ List.Forall₂ R b d := by
  have htake := List.forall₂_take_append _ _ _ h
  have hdrop := List.forall₂_drop_append _ _ _ h
  rw [List.take_left' length] at htake
  rw [List.drop_left' length] at hdrop
  exact ⟨htake, hdrop⟩

/-! ### Two runs -/

/-- The same question after health goes unnoticed in two runs, if it comes as far in both or begins no
window. -/
theorem health_unnoticed (h : Shadows now (r d) (other d)) (after : now ≤ later)
    (agrees : List.Forall₂ Round.Agrees (r.rounds d [(later, .health)])
      (other.rounds d [(later, .health)])) :
    Shadows later (r.step later .health d) (other.step later .health d) := by
  obtain ⟨agrees, _⟩ := List.forall₂_cons.mp agrees
  simp only [Round.Agrees] at agrees
  rw [step_apply, step_apply]
  cases hr : r.reaches later d <;> cases hother : other.reaches later d <;>
    simp [seen?, hr, hother] at agrees ⊢
  · exact h.mono after
  · exact h.look after agrees
  · exact (h.symm.look after agrees).symm
  · exact h.step after .observe

/-- A step that concerns a breaker goes unnoticed there if it is made in two runs. -/
theorem step_unnoticed (h : Shadows now (r d) (other d)) (after : now ≤ later)
    (concerns : label.concerns d = true)
    (agrees : List.Forall₂ Round.Agrees (r.rounds d [(later, label)]) (other.rounds d [(later, label)])) :
    Shadows later (r.step later label d) (other.step later label d) := by
  cases label with
  | on line event =>
    obtain rfl : line = d := by simpa [Label.concerns] using concerns
    rw [step_apply, step_apply]
    simpa [seen?] using h.step after event
  | status => exact h.step after .observe
  | health => exact health_unnoticed h after agrees

/-- Two runs with the same steps that concern a breaker go unnoticed there, if their questions after health
agree. -/
theorem run_unnoticed {steps' : List (Instant × Label)} {same : List (Instant × Label)}
    (h : Shadows now (r d) (other d)) (inOrder : InOrder now steps)
    (own : concerning d steps = same) (own' : concerning d steps' = same)
    (agrees : List.Forall₂ Round.Agrees (r.rounds d steps) (other.rounds d steps')) :
    ∃ last, Shadows last (r.run steps d) (other.run steps' d) ∧
      ∀ later, now ≤ later → (∀ s ∈ same, s.1 ≤ later) → last ≤ later := by
  induction same generalizing now r other steps steps' with
  | nil =>
    have hr : r.run steps d = r d := run_apply_of_not_concerns fun s hs => by
      simpa using List.filter_eq_nil_iff.mp own s hs
    have hother : other.run steps' d = other d := run_apply_of_not_concerns fun s hs => by
      simpa using List.filter_eq_nil_iff.mp own' s hs
    rw [hr, hother]
    exact ⟨now, h, fun _ hnow _ => hnow⟩
  | cons s same ih =>
    obtain ⟨before, rest, rfl, hbefore, hconcerns, hrest⟩ := List.filter_eq_cons_iff.mp own
    obtain ⟨before', rest', rfl, hbefore', _, hrest'⟩ := List.filter_eq_cons_iff.mp own'
    obtain ⟨hnow, hlater⟩ := inOrder_append inOrder
    -- nothing happens to the breaker before the first step that concerns it
    have hbefore : ∀ s ∈ before, s.2.concerns d = false := by simpa using hbefore
    have hbefore' : ∀ s ∈ before', s.2.concerns d = false := by simpa using hbefore'
    have hskip : r.run before d = r d := run_apply_of_not_concerns hbefore
    have hskip' : other.run before' d = other d := run_apply_of_not_concerns hbefore'
    rw [rounds_skip hbefore, rounds_skip hbefore'] at agrees
    obtain ⟨hfirst, hrounds⟩ := forall₂_of_append agrees (by rw [length_rounds, length_rounds])
    have hstep := step_unnoticed (hskip ▸ hskip' ▸ h) hnow hconcerns hfirst
    obtain ⟨last, hlast, hle⟩ := ih hstep hlater hrest hrest' hrounds
    rw [run_append, run_append]
    exact ⟨last, hlast, fun later _ hall =>
      hle later (hall s List.mem_cons_self) fun s' hs' => hall s' (List.mem_cons_of_mem _ hs')⟩

/-- **Calls on the others go unnoticed.**  Two runs of a registry that have the same calls on a dependency
and the same questions at the same instants go alike there at every instant, whatever calls they have on the
other dependencies: each call comes as far and gets the same result, listeners are told the same, and whoever
looks sees the same phase and counts.  It takes that a question after health that begins a new window of the
breaker comes as far in the other run, too: it stops at the first breaker that it finds open. -/
theorem beside_unnoticed (r : Registry) (d : Dependency) (began : Instant)
    (steps steps' : List (Instant × Label)) (inOrder : InOrder began steps)
    (inOrder' : InOrder began steps') (same : concerning d steps = concerning d steps')
    (agrees : List.Forall₂ Round.Agrees (r.rounds d steps) (r.rounds d steps')) (now : Instant)
    (after : began ≤ now) :
    let here := r.run (upTo now steps) d
    let there := r.run (upTo now steps') d
    here.stages = there.stages ∧ here.breaker.alerts = there.breaker.alerts ∧
      (here.found now).phase = (there.found now).phase ∧
      (here.found now).counts = (there.found now).counts := by
  intro here there
  obtain ⟨rest, hsteps⟩ := upTo_append inOrder now
  obtain ⟨rest', hsteps'⟩ := upTo_append inOrder' now
  have own : concerning d (upTo now steps') = concerning d (upTo now steps) := by
    rw [concerning, concerning, upTo, upTo, List.filter_comm, List.filter_comm _ _ steps]
    exact congrArg (List.filter _) same.symm
  have hrounds : List.Forall₂ Round.Agrees (r.rounds d (upTo now steps))
      (r.rounds d (upTo now steps')) := by
    rw [hsteps, hsteps', rounds_append, rounds_append] at agrees
    exact (forall₂_of_append agrees (by rw [length_rounds, length_rounds, own])).1
  have hinOrder : InOrder began (upTo now steps) := by
    rw [InOrder, hsteps, List.map_append, ← List.cons_append] at inOrder
    exact (List.pairwise_append.mp inOrder).1
  obtain ⟨last, shadows, hlast⟩ :=
    run_unnoticed (Shadows.refl began (r d)) hinOrder rfl own hrounds
  have hnow : last ≤ now := hlast now after fun s hs => by
    have hkept := (List.mem_filter.mp (List.mem_filter.mp hs).1).2
    simpa using hkept
  have found := shadows.found now hnow
  exact ⟨shadows.stages, by rw [shadows.breaker], found.phase, found.counts⟩

/-- The cache opens, so a question after health comes to the broker in one of two runs only; it begins no
window there.  Then the broker itself fails twice. -/
theorem beside_unnoticed_when_opened :
    let settings : Dependency → Settings
      | .cache => { name := "redis", minRequests := 1 }
      | d => { name := d.name, window := 10, minRequests := 2 }
    let r := start settings 0
    let down : Except Failure Unit := .error (.unavailable "down")
    let beside : List (Instant × Label) :=
      [(1, .on .cache (.call 0 none)), (1, .on .cache (.settle 0 down))]
    let steps : List (Instant × Label) := [(5, .health), (10, .status),
      (12, .on .messageBroker (.call 0 none)), (12, .on .messageBroker (.settle 0 down)),
      (19, .on .messageBroker (.call 1 none)), (19, .on .messageBroker (.settle 1 down))]
    List.Forall₂ Round.Agrees (r.rounds .messageBroker steps) (r.rounds .messageBroker (beside ++ steps)) ∧
      (r.run (beside ++ steps) .cache).breaker.circuit.phase = .opened ∧
      ((r.run (upTo 19 (beside ++ steps)) .messageBroker).found 19).phase = .opened := by
  intro settings r down beside steps
  have agrees : List.Forall₂ Round.Agrees (r.rounds .messageBroker steps)
      (r.rounds .messageBroker (beside ++ steps)) := by decide +kernel
  have alone : ((r.run (upTo 19 steps) .messageBroker).found 19).phase = .opened := by decide +kernel
  have h := beside_unnoticed r .messageBroker 0 steps (beside ++ steps) (by decide) (by decide) rfl agrees
    19 (by decide)
  exact ⟨agrees, by decide +kernel, h.2.2.1.symm.trans alone⟩

/-- While the cache is open, the question after health does not come to the broker, whose window is over.
Its next window begins with its next call and not with the question, so that two failures fall into one
window: the broker opens, and refuses a call that would have passed. -/
theorem opened_beside_noticed :
    let settings : Dependency → Settings
      | .cache => { name := "redis", minRequests := 1 }
      | d => { name := d.name, window := 10, minRequests := 2 }
    let r := start settings 0
    let down : Except Failure Unit := .error (.unavailable "down")
    let beside : List (Instant × Label) :=
      [(0, .on .cache (.call 0 none)), (0, .on .cache (.settle 0 down))]
    let failures : List (Instant × Label) := [(10, .health),
      (12, .on .messageBroker (.call 0 none)), (12, .on .messageBroker (.settle 0 down)),
      (21, .on .messageBroker (.call 1 none)), (21, .on .messageBroker (.settle 1 down))]
    let steps := failures ++ [(21, .on .messageBroker (.call 2 none))]
    InOrder 0 steps ∧ InOrder 0 (beside ++ steps) ∧
      concerning .messageBroker (beside ++ steps) = concerning .messageBroker steps ∧
      (r.run steps .messageBroker).isInFlight 2 = true ∧
      (r.run (beside ++ steps) .messageBroker).stages 2 = .finished (.error (.opened "kafka")) := by
  intro settings r down beside failures steps
  let t := r.run (beside ++ failures) .messageBroker
  have idle : t.stages 2 = .idle := by
    have hidle : (t.stages 2).isIdle = true := by decide +kernel
    cases hstage : t.stages 2 with
    | idle => rfl
    | _ => rw [hstage] at hidle; cases hidle
  have refused : (t.found 21).refusal? t.breaker.settings = some .opened := by decide +kernel
  have passes : (r.run steps .messageBroker).isInFlight 2 = true := by decide +kernel
  have same : concerning .messageBroker (beside ++ steps) = concerning .messageBroker steps := rfl
  have inOrder : InOrder 0 steps := by decide
  have inOrder' : InOrder 0 (beside ++ steps) := by decide
  refine ⟨inOrder, inOrder', same, passes, ?_⟩
  have hlast : r.run (beside ++ steps) .messageBroker = t.step 21 (.call 2 none) := by
    rw [← List.append_assoc, run_append, run_cons]
    exact step_apply 21 (r.run (beside ++ failures)) .messageBroker (.on .messageBroker (.call 2 none))
  have hname : t.name = "kafka" := by decide +kernel
  rw [hlast, step_call 21 none idle, call_refused _ 21 2 none refused, hname]
  exact Tasks.set_self t.stages 2 (.finished (.error (.opened "kafka")))

end ProfileGuard.Breaker.Registry
