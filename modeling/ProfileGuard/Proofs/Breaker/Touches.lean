import ProfileGuard.Proofs.Breaker.Moves

/-!
# Touches of a breaker

An event that reaches a breaker has two halves: the time that has passed acts on the circuit, and then the
event acts on the circuit it finds.  The phase can change in either half.  From these halves comes what a
run leaves of its present phase and of its present generation, written down from outside.

* **`Breaker.Traffic.foundBy`** — the circuit as an event finds it.
* **`Breaker.Touch`** / **`Breaker.touch_of_touches`** — what an event does to the circuit it finds.
* **`Breaker.Traffic.changes`** — the phase changes of one step.
* **`Breaker.Traffic.lastChange`** / **`Breaker.Traffic.lastEnd`** — when the phase changed last in a run,
  and when the generation before that change would have ended by itself.
* **`Breaker.Traffic.recent`** — what was noted since the present generation began.
-/

namespace ProfileGuard.Breaker

/-- Whether a call has not begun. -/
def Stage.isIdle : Stage → Bool
  | idle => true
  | _ => false

namespace Traffic

/-- Whether an event reaches the breaker; one that cannot happen does not. -/
def touches (t : Traffic) : Event → Bool
  | .call id _ => (t.stages id).isIdle
  | .settle id _ | .drop id => t.isInFlight id
  | .expire id =>
    match t.stages id with
    | .inFlight ⟨_, _, limit⟩ => limit.isSome
    | _ => false
  | .observe => true

/-- The circuit as an event finds it: if the event reaches the breaker, the time that has passed has acted
on it. -/
def foundBy (t : Traffic) (now : Instant) (event : Event) : Circuit :=
  if t.touches event then t.found now else t.breaker.circuit

/-- The phase changes of one step, each with the phases before and after it. -/
def changes (t : Traffic) (now : Instant) (event : Event) : List (Phase × Phase) :=
  [(t.breaker.circuit.phase, (t.foundBy now event).phase),
    ((t.foundBy now event).phase, (t.step now event).breaker.circuit.phase)].filter
      fun change => change.1 ≠ change.2

/-- When the phase changed last in a run, given when it changed last before the run. -/
def lastChange (t : Traffic) (last : Instant) : List (Instant × Event) → Instant
  | [] => last
  | s :: steps =>
    (t.step s.1 s.2).lastChange (if t.changes s.1 s.2 = [] then last else s.1) steps

/-- When the generation before the last phase change of a run would have ended by itself, given the same of
the last change before the run. -/
def lastEnd (t : Traffic) (last : Option Instant) : List (Instant × Event) → Option Instant
  | [] => last
  | s :: steps =>
    (t.step s.1 s.2).lastEnd (if t.changes s.1 s.2 = [] then last else (t.foundBy s.1 s.2).expiry) steps

/-- What has been noted since the generation that an event finds began. -/
def recentFor (t : Traffic) (recent : List Note) (now : Instant) (event : Event) : List Note :=
  if (t.foundBy now event).generation = t.breaker.circuit.generation then recent else []

/-- What has been noted since the generation after a step began. -/
def recentAfter (t : Traffic) (recent : List Note) (now : Instant) (event : Event) : List Note :=
  if (t.step now event).breaker.circuit.generation = (t.foundBy now event).generation then
    t.recentFor recent now event ++ t.noted now event
  else []

/-- What has been noted since the present generation began, given those notes before a run. -/
def recent (t : Traffic) (notes : List Note) : List (Instant × Event) → List Note
  | [] => notes
  | s :: steps => (t.step s.1 s.2).recent (t.recentAfter notes s.1 s.2) steps

end Traffic

/-- The call that was let through, if a note says so. -/
def Note.admitted? : Note → Option TaskId
  | admitted _ id _ => some id
  | settled _ _ _ => none

/-- The calls that some notes say were let through, in their order. -/
def letThrough (notes : List Note) : List TaskId := notes.filterMap Note.admitted?

/-- A series of phase changes leads from one phase to another. -/
def Leads (last : Phase) : Phase → List (Phase × Phase) → Prop
  | phase, [] => phase = last
  | phase, change :: changes => change.1 = phase ∧ Leads last change.2 changes

variable {now : Instant} {t later : Traffic} {event : Event} {notes : List Note}

/-! ### Events that do not reach the breaker -/

/-- An event that does not reach the breaker changes nothing. -/
theorem step_of_not_touches (h : t.touches event = false) : t.step now event = t := by
  cases event with
  | call id limit =>
    cases hstage : t.stages id with
    | idle => simp [Traffic.touches, hstage, Stage.isIdle] at h
    | _ => simp only [Traffic.step, hstage]
  | settle id result | drop id =>
    cases hstage : t.stages id with
    | inFlight flight => simp [Traffic.touches, Traffic.isInFlight, hstage, Stage.isInFlight] at h
    | _ => simp only [Traffic.step, hstage]
  | expire id =>
    cases hstage : t.stages id with
    | inFlight flight =>
      obtain ⟨generation, began, limit⟩ := flight
      cases limit with
      | some limit => simp [Traffic.touches, hstage] at h
      | none => simp only [Traffic.step, hstage]
    | _ => simp only [Traffic.step, hstage]
  | observe => cases h

/-- An event that reaches the breaker and changes nothing finds the circuit as it was. -/
theorem found_of_touches (h : t.touches event = true) (same : t.step now event = t) :
    t.found now = t.breaker.circuit := by
  cases event with
  | observe => exact congrArg (fun t => t.breaker.circuit) same
  | call id limit =>
    -- a call that begins is idle no more
    cases hstage : t.stages id with
    | idle =>
      have hlater := congrArg (fun t => t.stages id) same
      rw [step_call now limit hstage, hstage] at hlater
      unfold Traffic.call at hlater
      split at hlater <;> simp at hlater
    | _ => simp [Traffic.touches, hstage, Stage.isIdle] at h
  | settle id result =>
    cases hstage : t.stages id with
    | inFlight flight =>
      cases result <;> simp only [Traffic.step, hstage] at same
      · exact absurd same (conclude_ne hstage rfl)
      · exact absurd same (conclude_ne hstage rfl)
    | _ => simp [Traffic.touches, Traffic.isInFlight, hstage, Stage.isInFlight] at h
  | drop id =>
    cases hstage : t.stages id with
    | inFlight flight =>
      simp only [Traffic.step, hstage] at same
      exact absurd same (conclude_ne hstage rfl)
    | _ => simp [Traffic.touches, Traffic.isInFlight, hstage, Stage.isInFlight] at h
  | expire id =>
    cases hstage : t.stages id with
    | inFlight flight =>
      obtain ⟨generation, began, limit⟩ := flight
      cases limit with
      | some limit =>
        simp only [Traffic.step, hstage] at same
        exact absurd same (conclude_ne hstage rfl)
      | none => simp [Traffic.touches, hstage] at h
    | _ => simp [Traffic.touches, hstage] at h

/-! ### Events that reach the breaker -/

/-- What an event does that reaches the breaker, with the notes it leaves. -/
inductive Touch (now : Instant) (t : Traffic) : List Note → Traffic → Prop where
  /-- A look, or a call that is refused. -/
  | quiet {later : Traffic} (circuit : later.breaker.circuit = t.found now)
      (flights : ∀ id, later.isInFlight id = t.isInFlight id) : Touch now t [] later
  | pass {later : Traffic} (id : TaskId) (limit : Option Duration) (idle : t.stages id = .idle)
      (free : (t.found now).refusal? t.breaker.settings = none)
      (circuit : later.breaker.circuit
        = { t.found now with counts := (t.found now).counts.admitted })
      (stages : later.stages
        = t.stages.set id (.inFlight ⟨(t.found now).generation, now, limit⟩)) :
      Touch now t [.admitted now id (t.found now).generation] later
  | settle (id : TaskId) (flight : Flight) (success : Bool) (stage : Stage)
      (inFlight : t.stages id = .inFlight flight) (ended : stage.outcome? = some success) :
      Touch now t [.settled now id success] (t.finish now id flight success stage)

/-- **What an event does** that reaches the breaker. -/
theorem touch_of_touches (now : Instant) (h : t.touches event = true) :
    Touch now t (t.noted now event) (t.step now event) := by
  have move := step_move now t event
  generalize hnotes : t.noted now event = notes at move
  generalize hlater : t.step now event = later at move
  cases move with
  | stay => exact .quiet (found_of_touches h hlater).symm fun _ => rfl
  | look => exact .quiet rfl fun _ => rfl
  | pass id limit idle free =>
    exact .pass id limit idle free (acquire_free t now free).1 rfl
  | refuse id refusal idle refused =>
    refine .quiet rfl fun other => ?_
    by_cases hother : other = id
    · simp [Traffic.isInFlight, hother, idle, Stage.isInFlight]
    · simp [Traffic.isInFlight, Tasks.set_other _ _ hother]
  | settle id flight success stage inFlight ended =>
    exact .settle id flight success stage inFlight ended

theorem foundBy_of_touches (h : t.touches event = true) : t.foundBy now event = t.found now := by
  rw [Traffic.foundBy, if_pos h]

theorem foundBy_of_not_touches (h : t.touches event = false) :
    t.foundBy now event = t.breaker.circuit := by
  simp [Traffic.foundBy, h]

/-- What leaves a note reaches the breaker. -/
theorem touches_of_noted {note : Note} (h : t.noted now event = [note]) :
    t.touches event = true := by
  cases htouches : t.touches event with
  | true => rfl
  | false =>
    rw [noted_of_same (step_of_not_touches htouches)] at h
    cases h

/-! ### The two halves of a step -/

/-- The first half: time does nothing to the circuit, or it begins a new window or a half-open period. -/
theorem foundBy_cases (t : Traffic) (now : Instant) (event : Event) :
    t.foundBy now event = t.breaker.circuit ∨
      (t.touches event = true ∧ t.breaker.circuit.isExpired now = true ∧
        ((t.breaker.circuit.phase = .closed ∧
            t.foundBy now event
              = t.breaker.circuit.renew (Circuit.windowEnd t.breaker.settings now)) ∨
          (t.breaker.circuit.phase = .opened ∧
            t.foundBy now event
              = (t.breaker.circuit.enter t.breaker.settings now .halfOpen).circuit))) := by
  cases htouches : t.touches event with
  | false => exact .inl (foundBy_of_not_touches htouches)
  | true =>
    rw [foundBy_of_touches htouches, Traffic.found]
    rcases Circuit.refresh_cases t.breaker.settings now t.breaker.circuit with
      ⟨heq, _⟩ | ⟨heq, hphase, hexpired⟩ | ⟨heq, hphase, hexpired⟩
    · exact .inl (by rw [heq])
    · exact .inr ⟨rfl, hexpired, .inl ⟨hphase, by rw [heq]⟩⟩
    · exact .inr ⟨rfl, hexpired, .inr ⟨hphase, by rw [heq]⟩⟩

/-- The second half: the event changes nothing but the counts, or it makes the circuit enter another
phase. -/
theorem step_circuit_cases (t : Traffic) (now : Instant) (event : Event) :
    (∃ counts, (t.step now event).breaker.circuit = { t.foundBy now event with counts }) ∨
      ∃ counts phase, phase ≠ (t.foundBy now event).phase ∧ phase ≠ .halfOpen ∧
        (t.step now event).breaker.circuit = Circuit.renew
          ((Circuit.expiryIn? t.breaker.settings now phase).getD (t.foundBy now event).expiry)
          { t.foundBy now event with counts, phase, since := now } := by
  cases htouches : t.touches event with
  | false =>
    rw [foundBy_of_not_touches htouches, step_of_not_touches htouches]
    exact .inl ⟨_, rfl⟩
  | true =>
    have touch := touch_of_touches now htouches
    rw [foundBy_of_touches htouches]
    generalize t.noted now event = notes at touch
    generalize t.step now event = later at touch
    cases touch with
    | quiet circuit => exact .inl ⟨_, circuit⟩
    | pass id limit idle free circuit => exact .inl ⟨_, circuit⟩
    | settle id flight success stage =>
      rcases record_cases t now flight.generation success with
        ⟨h, _⟩ | ⟨_, _, h | ⟨phase, hphase, hne, h⟩⟩
      · exact .inl ⟨_, h⟩
      · exact .inl ⟨_, h⟩
      · exact .inr ⟨_, phase, hphase, hne, h⟩

/-! ### Phase changes -/

theorem mem_changes {before after : Phase} :
    (before, after) ∈ t.changes now event ↔ before ≠ after ∧
      ((t.breaker.circuit.phase = before ∧ (t.foundBy now event).phase = after) ∨
        ((t.foundBy now event).phase = before ∧
          (t.step now event).breaker.circuit.phase = after)) := by
  simp only [Traffic.changes, List.mem_filter, List.mem_cons, Prod.mk.injEq, List.not_mem_nil,
    or_false, decide_eq_true_eq]
  constructor
  · rintro ⟨⟨rfl, rfl⟩ | ⟨rfl, rfl⟩, hne⟩
    · exact ⟨hne, .inl ⟨rfl, rfl⟩⟩
    · exact ⟨hne, .inr ⟨rfl, rfl⟩⟩
  · rintro ⟨hne, ⟨rfl, rfl⟩ | ⟨rfl, rfl⟩⟩
    · exact ⟨.inl ⟨rfl, rfl⟩, hne⟩
    · exact ⟨.inr ⟨rfl, rfl⟩, hne⟩

theorem changes_eq_nil : t.changes now event = [] ↔
    (t.foundBy now event).phase = t.breaker.circuit.phase ∧
      (t.step now event).breaker.circuit.phase = (t.foundBy now event).phase := by
  simp only [Traffic.changes, List.filter_eq_nil_iff, List.mem_cons, List.not_mem_nil, or_false,
    forall_eq_or_imp, forall_eq, decide_eq_true_eq, ne_eq, not_not]
  exact ⟨fun h => ⟨h.1.symm, h.2.symm⟩, fun h => ⟨h.1.symm, h.2.symm⟩⟩

/-- The phase changes of a step lead from the phase before it to the phase after it. -/
theorem leads_changes (t : Traffic) (now : Instant) (event : Event) :
    Leads (t.step now event).breaker.circuit.phase t.breaker.circuit.phase
      (t.changes now event) := by
  unfold Traffic.changes
  generalize t.breaker.circuit.phase = before
  generalize (t.foundBy now event).phase = found
  generalize (t.step now event).breaker.circuit.phase = after
  by_cases hfound : before = found
  · by_cases hafter : found = after <;> simp [hfound, hafter, Leads]
  · by_cases hafter : found = after
    · simp [← hafter, hfound, Leads]
    · simp [hfound, hafter, Leads]

/-! ### When the phase changed last -/

/-- A circuit knows when its phase was entered, and an open one ends its phase when its time is over, or
else when the generation before it would have ended. -/
def Traffic.KeepsTime (t : Traffic) (last : Instant) (ended : Option Instant) : Prop :=
  t.breaker.circuit.since = last ∧ (t.breaker.circuit.phase = .opened →
    t.breaker.circuit.expiry = (Instant.after? last t.breaker.settings.openFor).or ended)

theorem step_settings (t : Traffic) (now : Instant) (event : Event) :
    (t.step now event).breaker.settings = t.breaker.settings := (step_move now t event).settings

theorem Traffic.KeepsTime.step {last : Instant} {ended : Option Instant} (h : t.KeepsTime last ended)
    (now : Instant) (event : Event) :
    (t.step now event).KeepsTime (if t.changes now event = [] then last else now)
      (if t.changes now event = [] then ended else (t.foundBy now event).expiry) := by
  have found : (t.foundBy now event).since
        = (if (t.foundBy now event).phase = t.breaker.circuit.phase then last else now) ∧
      ((t.foundBy now event).phase = .opened → (t.foundBy now event) = t.breaker.circuit) := by
    rcases foundBy_cases t now event with
      heq | ⟨_, _, ⟨hphase, heq⟩ | ⟨hphase, heq⟩⟩
    · rw [heq]
      exact ⟨by rw [if_pos rfl, h.1], fun _ => rfl⟩
    · rw [heq]
      exact ⟨by simp [Circuit.renew, h.1], fun hopened => by simp [hphase] at hopened⟩
    · rw [heq, Circuit.enter_circuit]
      exact ⟨by simp [Circuit.renew, hphase], fun hopened => by cases hopened⟩
  obtain ⟨hsince, hopened⟩ := found
  rcases step_circuit_cases t now event with ⟨counts, hnext⟩ | ⟨counts, phase, hphase, _, hnext⟩
  · have hchanges : t.changes now event = [] ↔
        (t.foundBy now event).phase = t.breaker.circuit.phase := by
      rw [changes_eq_nil, hnext]
      exact and_iff_left rfl
    refine ⟨?_, fun hphase => ?_⟩
    · rw [hnext]
      simp only [hchanges]
      exact hsince
    · rw [hnext] at hphase ⊢
      have hsame := hopened hphase
      have hnil := hchanges.mpr (by rw [hsame])
      rw [if_pos hnil, if_pos hnil, step_settings]
      rw [hsame] at hphase
      show (t.foundBy now event).expiry = _
      rw [hsame]
      exact h.2 hphase
  · have hchanges : t.changes now event ≠ [] := by
      rw [Ne, changes_eq_nil, hnext]
      exact fun hnil => hphase hnil.2
    rw [if_neg hchanges, if_neg hchanges]
    refine ⟨by rw [hnext]; rfl, fun hopened => ?_⟩
    rw [hnext] at hopened ⊢
    have hopened : phase = .opened := hopened
    rw [step_settings, Circuit.renew_expiry, hopened, Circuit.expiryIn?_opened]

theorem Traffic.KeepsTime.run {last : Instant} {ended : Option Instant} (h : t.KeepsTime last ended)
    (steps : List (Instant × Event)) :
    (t.run steps).KeepsTime (t.lastChange last steps) (t.lastEnd ended steps) := by
  induction steps generalizing t last ended with
  | nil => exact h
  | cons s steps ih => exact ih (h.step s.1 s.2)

theorem Traffic.IsFresh.keepsTime {began : Instant} (fresh : t.IsFresh began) :
    t.KeepsTime began none := by
  rw [KeepsTime, fresh.circuit]
  exact ⟨rfl, fun hopened => by cases hopened⟩

end ProfileGuard.Breaker
