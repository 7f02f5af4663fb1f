import ProfileGuard.Rotation.Manager
import ProfileGuard.Simulation

/-!
# A manager along the clock

* **`Rotation.Watch`** — a manager, with notes `ν` kept beside it and the answers to questions.
* **`Rotation.Watch.simulation`** — questions along the clock, the checker ticking between them.
-/

namespace ProfileGuard.Rotation

/-- A manager with notes kept beside it. -/
structure Watch (ν α : Type) where
  manager : Manager
  notes : ν
  /-- The answers to questions. -/
  answers : Tasks (Option α) := fun _ => none

namespace Watch

variable {ν α : Type}

/-- A question, which may change the manager and the notes. -/
abbrev Question (ν α : Type) := Instant → Manager → ν → Manager × ν × α

/-- A question is asked. -/
def launch (now : Instant) (id : TaskId) (question : Question ν α) (w : Watch ν α) : Watch ν α :=
  let (manager, notes, value) := question now w.manager w.notes
  { manager, notes, answers := w.answers.set id (some value) }

/-- The checker looks, if it is time. -/
def act? (now : Instant) (w : Watch ν α) : Option (Watch ν α) :=
  match w.manager.nextTick with
  | some due =>
    if due ≤ now then some { w with manager := w.manager.tick now } else none
  | none => none

/-- Questions along the clock; the report shows the manager with the announcements since the last
report. -/
def simulation (ν α : Type) : Simulation (Watch ν α) (Question ν α) α Manager where
  launch now id question w := w.launch now id question
  act? _ now w := w.act? now
  dues w := w.manager.nextTick.toList
  reply? w id := w.answers id
  abandon _ _ w := w
  report _ w := ({ w with manager := { w.manager with announced := [] } }, w.manager)

end Watch

end ProfileGuard.Rotation
