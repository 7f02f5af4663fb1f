import Mathlib.Data.Bool.Count
import ProfileGuard.Breaker.Traffic

/-!
# The history of guarded calls

What happens to the calls through a breaker, written down from outside: a note for each call that is let
through and a note for each call that ends.  The notes are read off the stages of the calls and know
nothing of the counts.

* **`Breaker.Note`** — one thing that happened to a call.
* **`Breaker.Traffic.log`** — the notes of a run, oldest first.
* **`Breaker.admittedIn`** / **`Breaker.outcomesOf`** — the calls let through in one generation, and how
  calls ended.
* **`Breaker.Stage.IsToldBy`** — the notes about a call tell how far it has come.
* **`Breaker.length_eq_outcomes_add_inFlight`** — calls that were let through have ended or are in flight.
-/

namespace ProfileGuard.Breaker

/-- One thing that happened to a call. -/
inductive Note where
  /-- The call was let through and its operation was started. -/
  | admitted (time : Instant) (id : TaskId) (generation : UInt64)
  /-- The call ended, with success or without. -/
  | settled (time : Instant) (id : TaskId) (success : Bool)
  deriving DecidableEq

namespace Note

/-- When it happened. -/
def time : Note → Instant
  | admitted time _ _ | settled time _ _ => time

/-- The call it happened to. -/
def id : Note → TaskId
  | admitted _ id _ | settled _ id _ => id

/-- Whether a call was let through. -/
def admits (id : TaskId) : Note → Bool
  | admitted _ other _ => other = id
  | settled _ _ _ => false

/-- Whether a call ended. -/
def settles (id : TaskId) : Note → Bool
  | admitted _ _ _ => false
  | settled _ other _ => other = id

/-- Whether an operation was started. -/
def isAdmission : Note → Bool
  | admitted _ _ _ => true
  | settled _ _ _ => false

/-- The call that was let through in a generation. -/
def admittedIn? (generation : UInt64) : Note → Option TaskId
  | admitted _ id g => if g = generation then some id else none
  | settled _ _ _ => none

/-- How one of some calls ended. -/
def outcomeOf? (ids : List TaskId) : Note → Option Bool
  | admitted _ _ _ => none
  | settled _ id success => if id ∈ ids then some success else none

end Note

/-- The call that an event is about. -/
def Event.task? : Event → Option TaskId
  | call id _ | settle id _ | expire id | drop id => some id
  | observe => none

/-- How a call ended, once it has: whether its operation succeeded. -/
def Stage.outcome? : Stage → Option Bool
  | finished (.ok _) => some true
  | finished (.error _) | dropped => some false
  | cutOff success => some success
  | _ => none

/-- Whether the operation of a call is under way. -/
def Stage.isInFlight : Stage → Bool
  | inFlight _ => true
  | _ => false

/-- The note for a call that goes from one stage to another; the generation is the one that the breaker
is in afterwards. -/
def noteFor (now : Instant) (id : TaskId) (generation : UInt64) : Stage → Stage → List Note
  | .idle, .inFlight _ => [.admitted now id generation]
  | .inFlight _, later => (later.outcome?.map (.settled now id)).toList
  | _, _ => []

namespace Traffic

/-- The note for one step, if anything happened to a call. -/
def noted (t : Traffic) (now : Instant) (event : Event) : List Note :=
  match event.task? with
  | some id =>
    noteFor now id (t.step now event).breaker.circuit.generation (t.stages id)
      ((t.step now event).stages id)
  | none => []

/-- The notes of a run, oldest first. -/
def log (t : Traffic) : List (Instant × Event) → List Note
  | [] => []
  | s :: steps => t.noted s.1 s.2 ++ (t.step s.1 s.2).log steps

/-- How many steps of a run begin a new generation. -/
def generationsBegun (t : Traffic) : List (Instant × Event) → Nat
  | [] => 0
  | s :: steps =>
    (if (t.step s.1 s.2).breaker.circuit.generation = t.breaker.circuit.generation then 0 else 1)
      + (t.step s.1 s.2).generationsBegun steps

/-- Whether the operation of a call is under way. -/
def isInFlight (t : Traffic) (id : TaskId) : Bool := (t.stages id).isInFlight

/-- A breaker at its beginning, without calls; anyone may listen to it. -/
structure IsFresh (t : Traffic) (began : Instant) : Prop where
  circuit : t.breaker.circuit = Circuit.start t.breaker.settings began
  idle : ∀ id, t.stages id = .idle

end Traffic

/-- Time does not go back in a run that begins at an instant. -/
def InOrder (began : Instant) (steps : List (Instant × Event)) : Prop :=
  (began :: steps.map Prod.fst).Pairwise (· ≤ ·)

instance (began : Instant) (steps : List (Instant × Event)) : Decidable (InOrder began steps) :=
  inferInstanceAs (Decidable (List.Pairwise _ _))

/-- The calls that were let through in a generation, in their order. -/
def admittedIn (generation : UInt64) (log : List Note) : List TaskId :=
  log.filterMap (Note.admittedIn? generation)

/-- How those of some calls that have ended did so, in their order. -/
def outcomesOf (ids : List TaskId) (log : List Note) : List Bool :=
  log.filterMap (Note.outcomeOf? ids)

/-- How many outcomes of one kind stand at the end. -/
def trailing (success : Bool) (outcomes : List Bool) : Nat :=
  (outcomes.reverse.takeWhile (· == success)).length

/-! ### Runs -/

theorem run_cons (t : Traffic) (s : Instant × Event) (steps : List (Instant × Event)) :
    t.run (s :: steps) = (t.step s.1 s.2).run steps := rfl

theorem run_append (t : Traffic) (before after : List (Instant × Event)) :
    t.run (before ++ after) = (t.run before).run after := List.foldl_append

theorem log_append (t : Traffic) (before after : List (Instant × Event)) :
    t.log (before ++ after) = t.log before ++ (t.run before).log after := by
  induction before generalizing t with
  | nil => rfl
  | cons s before ih =>
    simp only [List.cons_append, Traffic.log, ih, run_cons, List.append_assoc]

theorem generationsBegun_append (t : Traffic) (before after : List (Instant × Event)) :
    t.generationsBegun (before ++ after)
      = t.generationsBegun before + (t.run before).generationsBegun after := by
  induction before generalizing t with
  | nil => simp [Traffic.generationsBegun, Traffic.run]
  | cons s before ih =>
    simp only [List.cons_append, Traffic.generationsBegun, ih, run_cons, Nat.add_assoc]

theorem inOrder_cons {began : Instant} {s : Instant × Event} {steps : List (Instant × Event)} :
    InOrder began (s :: steps) → began ≤ s.1 ∧ InOrder s.1 steps := by
  intro h
  rw [InOrder, List.map_cons, List.pairwise_cons] at h
  exact ⟨h.1 s.1 (by simp), h.2⟩

/-! ### Calls and outcomes in a log -/

section Log

variable {log more : List Note} {ids : List TaskId} {id : TaskId} {g : UInt64} {now : Instant}

@[simp]
theorem admittedIn_append : admittedIn g (log ++ more) = admittedIn g log ++ admittedIn g more :=
  List.filterMap_append

@[simp]
theorem admittedIn_admitted (generation : UInt64) :
    admittedIn g [.admitted now id generation] = if generation = g then [id] else [] := by
  by_cases h : generation = g <;> simp [admittedIn, Note.admittedIn?, h]

@[simp]
theorem admittedIn_settled (success : Bool) : admittedIn g [.settled now id success] = [] := rfl

@[simp]
theorem outcomesOf_append : outcomesOf ids (log ++ more) = outcomesOf ids log ++ outcomesOf ids more :=
  List.filterMap_append

@[simp]
theorem outcomesOf_admitted : outcomesOf ids [.admitted now id g] = [] := rfl

@[simp]
theorem outcomesOf_settled (success : Bool) :
    outcomesOf ids [.settled now id success] = if id ∈ ids then [success] else [] := by
  by_cases h : id ∈ ids <;> simp [outcomesOf, Note.outcomeOf?, h]

theorem length_admittedIn_le : (admittedIn g log).length ≤ log.length :=
  List.length_filterMap_le _ _

/-- A call is among those let through in a generation when a note says so. -/
theorem mem_admittedIn : id ∈ admittedIn g log ↔ ∃ time, .admitted time id g ∈ log := by
  rw [admittedIn, List.mem_filterMap]
  constructor
  · rintro ⟨note, hnote, h⟩
    cases note with
    | admitted time other generation =>
      by_cases hg : generation = g
      · simp only [Note.admittedIn?, hg, if_true, Option.some.injEq] at h
        exact ⟨time, by rw [← h, ← hg]; exact hnote⟩
      · simp [Note.admittedIn?, hg] at h
    | settled time other success => cases h
  · rintro ⟨time, h⟩
    exact ⟨_, h, by simp [Note.admittedIn?]⟩

theorem not_mem_admittedIn (h : log.countP (Note.admits id) = 0) : id ∉ admittedIn g log := by
  rw [mem_admittedIn]
  rintro ⟨time, hmem⟩
  have := List.countP_eq_zero.mp h _ hmem
  simp [Note.admits] at this

/-- A call is among those of a generation at most as often as it was let through. -/
theorem count_admittedIn_le : (admittedIn g log).count id ≤ log.countP (Note.admits id) := by
  induction log with
  | nil => exact Nat.le_refl 0
  | cons note log ih =>
    show (admittedIn g ([note] ++ log)).count id ≤ ([note] ++ log).countP (Note.admits id)
    rw [admittedIn_append, List.count_append, List.countP_append]
    have hnote : (admittedIn g [note]).count id ≤ [note].countP (Note.admits id) := by
      cases note with
      | admitted time other generation =>
        rw [admittedIn_admitted]
        by_cases hid : other = id
        · split <;> simp [Note.admits, hid]
        · split <;> simp [Note.admits, hid]
      | settled time other success => simp
    omega

/-- A call without a note of its end adds no outcome. -/
theorem outcomesOf_concat (h : log.countP (Note.settles id) = 0) :
    outcomesOf (ids ++ [id]) log = outcomesOf ids log := by
  refine List.filterMap_congr fun note hnote => ?_
  have hid := List.countP_eq_zero.mp h note hnote
  cases note with
  | admitted time other generation => rfl
  | settled time other success =>
    have hother : other ≠ id := by simpa [Note.settles] using hid
    simp [Note.outcomeOf?, hother]

theorem outcomesOf_nil : outcomesOf [] log = [] := by
  refine List.filterMap_eq_nil_iff.mpr fun note _ => ?_
  cases note <;> simp [Note.outcomeOf?]

/-- The outcomes of some calls, one call taken apart. -/
theorem length_outcomesOf_cons (h : id ∉ ids) :
    (outcomesOf (id :: ids) log).length
      = log.countP (Note.settles id) + (outcomesOf ids log).length := by
  induction log with
  | nil => rfl
  | cons note log ih =>
    show (outcomesOf (id :: ids) ([note] ++ log)).length
      = ([note] ++ log).countP (Note.settles id) + (outcomesOf ids ([note] ++ log)).length
    rw [outcomesOf_append, outcomesOf_append, List.length_append, List.length_append,
      List.countP_append, ih]
    cases note with
    | admitted time other generation => simp [Note.settles]
    | settled time other success =>
      by_cases hid : other = id
      · simp [Note.settles, hid, h]; omega
      · by_cases hmem : other ∈ ids <;> simp [Note.settles, hid, hmem]; omega

end Log

/-! ### Notes and stages -/

/-- The notes about a call tell how far it has come. -/
def Stage.IsToldBy (log : List Note) (id : TaskId) : Stage → Prop
  | .idle => log.countP (Note.admits id) = 0 ∧ log.countP (Note.settles id) = 0
  | .inFlight flight =>
    log.countP (Note.admits id) = 1 ∧ log.countP (Note.settles id) = 0 ∧
      ∀ g, id ∈ admittedIn g log ↔ g = flight.generation
  | .finished _ | .dropped | .cutOff _ =>
    log.countP (Note.settles id) = log.countP (Note.admits id) ∧ log.countP (Note.admits id) ≤ 1

namespace Stage.IsToldBy

variable {stage : Stage} {log more : List Note} {id : TaskId}

theorem admits_le (h : stage.IsToldBy log id) : log.countP (Note.admits id) ≤ 1 := by
  cases stage with
  | idle => exact h.1.le.trans (by omega)
  | inFlight flight => exact h.1.le
  | finished _ | dropped | cutOff _ => exact h.2

/-- A call that was let through has ended or is in flight. -/
theorem settles_add (h : stage.IsToldBy log id) :
    log.countP (Note.settles id) + (if stage.isInFlight then 1 else 0)
      = log.countP (Note.admits id) := by
  cases stage with
  | idle => rw [h.1, h.2]; rfl
  | inFlight flight => rw [h.1, h.2.1]; rfl
  | finished _ | dropped | cutOff _ => exact h.1

theorem of_others (h : stage.IsToldBy log id) (others : ∀ note ∈ more, note.id ≠ id) :
    stage.IsToldBy (log ++ more) id := by
  have hadmits : more.countP (Note.admits id) = 0 := by
    refine List.countP_eq_zero.mpr fun note hnote => ?_
    have hother := others note hnote
    cases note with
    | admitted time other generation => simpa [Note.admits, Note.id] using hother
    | settled time other success => simp [Note.admits]
  have hsettles : more.countP (Note.settles id) = 0 := by
    refine List.countP_eq_zero.mpr fun note hnote => ?_
    have hother := others note hnote
    cases note with
    | admitted time other generation => simp [Note.settles]
    | settled time other success => simpa [Note.settles, Note.id] using hother
  cases stage with
  | idle => simpa [IsToldBy, hadmits, hsettles] using h
  | inFlight flight =>
    obtain ⟨h1, h2, h3⟩ := h
    refine ⟨by simpa [hadmits] using h1, by simpa [hsettles] using h2, fun g => ?_⟩
    rw [admittedIn_append, List.mem_append, h3 g]
    exact or_iff_left (not_mem_admittedIn hadmits)
  | finished _ | dropped | cutOff _ => simpa [IsToldBy, hadmits, hsettles] using h

theorem id_ne (h : Stage.idle.IsToldBy log id) {note : Note} (hnote : note ∈ log) :
    note.id ≠ id := by
  intro hid
  cases note with
  | admitted time other generation =>
    have hnone := List.countP_eq_zero.mp h.1 _ hnote
    exact hnone (by simpa [Note.admits, Note.id] using hid)
  | settled time other success =>
    have hnone := List.countP_eq_zero.mp h.2 _ hnote
    exact hnone (by simpa [Note.settles, Note.id] using hid)

theorem admitted (h : Stage.idle.IsToldBy log id) (now : Instant) (flight : Flight) :
    (Stage.inFlight flight).IsToldBy (log ++ [.admitted now id flight.generation]) id := by
  refine ⟨by simp [h.1, Note.admits], by simp [h.2, Note.settles], fun g => ?_⟩
  rw [admittedIn_append, List.mem_append, admittedIn_admitted]
  have hnone : id ∉ admittedIn g log := not_mem_admittedIn h.1
  by_cases hg : flight.generation = g
  · simp [hg]
  · simp [hg, hnone, Ne.symm hg]

/-- A call that is refused is over without a note. -/
theorem finished (h : Stage.idle.IsToldBy log id) (result : Except (CallError Failure) Unit) :
    (Stage.finished result).IsToldBy log id :=
  ⟨by rw [h.1, h.2], by rw [h.1]; omega⟩

theorem settled {flight : Flight} (h : (Stage.inFlight flight).IsToldBy log id) (now : Instant)
    {success : Bool} (ended : stage.outcome? = some success) :
    stage.IsToldBy (log ++ [.settled now id success]) id := by
  have hover : (log ++ [Note.settled now id success]).countP (Note.settles id)
        = (log ++ [Note.settled now id success]).countP (Note.admits id) ∧
      (log ++ [Note.settled now id success]).countP (Note.admits id) ≤ 1 := by
    simp [h.1, h.2.1, Note.settles, Note.admits]
  cases stage with
  | idle => cases ended
  | inFlight flight => cases ended
  | finished _ | dropped | cutOff _ => exact hover

end Stage.IsToldBy

/-- The stages after one call went on, and what the log says of them. -/
theorem told_set {stages : Tasks Stage} {log notes : List Note}
    (told : ∀ id, (stages id).IsToldBy log id) {id : TaskId} {stage : Stage}
    (about : ∀ note ∈ notes, note.id = id) (own : stage.IsToldBy (log ++ notes) id)
    (other : TaskId) : (stages.set id stage other).IsToldBy (log ++ notes) other := by
  by_cases hother : other = id
  · rw [hother, Tasks.set_self]
    exact own
  · rw [Tasks.set_other _ _ hother]
    exact (told other).of_others fun note hnote heq => hother (heq.symm.trans (about note hnote))

/-- Calls that were let through have ended or are in flight. -/
theorem length_eq_outcomes_add_inFlight {t : Traffic} {log : List Note} {ids : List TaskId}
    (nodup : ids.Nodup) (once : ∀ id ∈ ids,
      log.countP (Note.settles id) + (if t.isInFlight id then 1 else 0) = 1) :
    ids.length = (outcomesOf ids log).length + (ids.filter t.isInFlight).length := by
  induction ids with
  | nil => simp [outcomesOf_nil]
  | cons id ids ih =>
    have hid := once id (by simp)
    have hrest := ih nodup.of_cons fun other hother => once other (by simp [hother])
    rw [length_outcomesOf_cons (List.nodup_cons.mp nodup).1, List.length_cons, List.filter_cons]
    by_cases hflight : t.isInFlight id
    · simp only [hflight, if_true, List.length_cons] at hid ⊢
      omega
    · simp only [hflight] at hid ⊢
      simp only [Bool.false_eq_true, if_false] at hid ⊢
      omega

end ProfileGuard.Breaker
