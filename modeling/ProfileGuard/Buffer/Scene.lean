import ProfileGuard.Buffer.Basic
import ProfileGuard.Buffer.Outlets
import ProfileGuard.Simulation

/-!
# A buffer and its outlets along the clock

* **`Buffer.job?`** — what an operation wants from an outlet, and until when.
* **`Buffer.Scene`** — a buffer, its outlets and the questions asked about them.
* **`Buffer.Scene.simulation`** — adds, flushes and questions along the clock.
-/

namespace ProfileGuard.Buffer

/-- Whether an operation holds the lock it waited for. -/
def canResume (b : Buffer) (id : TaskId) : Bool :=
  match b.stages id with
  | .adding _ | .reading _ | .closing _ | .viewing => b.lock.isHeldBy id
  | .flushing _ => b.flushLock.isHeldBy id
  | _ => false

/-- An event as the transport takes it. -/
def Event.message (e : Event) : Outlets.Message := ⟨e.topic, e.key, e.payload⟩

/-- What an operation wants from an outlet, and until when. -/
def job? (b : Buffer) (id : TaskId) : Option (Outlets.Job × Instant) :=
  match b.stages id with
  | .spilling _ expires => some (.store b.events, expires)
  | .sending d => d.remaining.head?.map fun event => (.send event.message, d.expires)
  | _ => none

/-- What the end of a job means for the operation that wanted it. -/
def labelFor (id : TaskId) : Outlets.Job → Outlets.Outcome → Label
  | .send _, .answered result => .sent id result
  | .send _, .late => .sendExpired id
  | .store _, .answered result => .stored id result
  | .store _, .late => .storeExpired id

/-- What an operation can do now, with the outlets. -/
def actOn? (now : Instant) (id : TaskId) (b : Buffer) (o : Outlets) : Option (Buffer × Outlets) :=
  if b.canResume id then some (b.step now (.resume id), o)
  else
    match b.job? id with
    | none => none
    | some (job, expires) =>
      (o.act? now id job expires).map fun
        | (o, none) => (b, o)
        | (o, some outcome) => (b.step now (labelFor id job outcome), o)

/-- When something is due for an operation. -/
def duesOf (id : TaskId) (b : Buffer) (o : Outlets) : List Instant :=
  match b.job? id with
  | none => []
  | some (_, expires) => o.dues id expires

/-- A buffer, its outlets and the questions asked, answered by `α`. -/
structure Scene (α : Type) where
  buffer : Buffer
  outlets : Outlets
  /-- How the tasks that view the buffer answer. -/
  views : Tasks (Option (List Event → α)) := fun _ => none
  /-- The answers to questions. -/
  answers : Tasks (Option α) := fun _ => none
  /-- All tasks have numbers below this one. -/
  bound : TaskId := 0

namespace Scene

variable {α : Type}

/-- A task of a scene. -/
inductive Request (α : Type) where
  /-- An event, created at this moment, is added. -/
  | add (event : Event)
  /-- A flush, perhaps with a time of its own. -/
  | flush (limit : Option Duration)
  /-- The events in the buffer are looked at. -/
  | view (answer : List Event → α)
  /-- A question that needs no lock and may change the outlets. -/
  | ask (question : Buffer → Outlets → Outlets × α)

/-- How a task of a scene ends. -/
inductive Reply (α : Type) where
  | added (result : Except Error Unit)
  | flushed (result : Except Error Nat)
  | answer (value : α)

/-- A buffer with its outlets. -/
def start (settings : Settings) (hasTransport : Bool) (outlets : Outlets) : Scene α :=
  { buffer := Buffer.start settings outlets.sink.isSome hasTransport, outlets }

/-- A task begins. -/
def launch (now : Instant) (id : TaskId) (request : Request α) (s : Scene α) : Scene α :=
  let s := { s with bound := max s.bound (id + 1) }
  match request with
  | .add event =>
    { s with buffer := s.buffer.step now (.add id { event with created := .atInstant now }) }
  | .flush limit =>
    { s with buffer := s.buffer.step now (.flush id (limit.getD s.buffer.settings.flushLimit)) }
  | .view answer =>
    { s with buffer := s.buffer.step now (.view id), views := s.views.set id (some answer) }
  | .ask question =>
    let (outlets, value) := question s.buffer s.outlets
    { s with outlets, answers := s.answers.set id (some value) }

/-- The first task in turn that can do something does it. -/
def act? (first : Option TaskId) (now : Instant) (s : Scene α) : Option (Scene α) :=
  (Simulation.turns first s.bound).findSome? fun id =>
    (actOn? now id s.buffer s.outlets).map fun (buffer, outlets) => { s with buffer, outlets }

/-- How a task ended. -/
def reply? (s : Scene α) (id : TaskId) : Option (Reply α) :=
  match s.answers id, s.buffer.stages id, s.views id with
  | some value, _, _ => some (.answer value)
  | none, .finished (.added result), _ => some (.added result)
  | none, .finished (.flushed result), _ => some (.flushed result)
  | none, .finished (.viewed events), some answer => some (.answer (answer events))
  | none, _, _ => none

/-- A task is abandoned where it waits. -/
def abandon (now : Instant) (id : TaskId) (s : Scene α) : Scene α :=
  { s with buffer := s.buffer.step now (.abort id), outlets := s.outlets.awaiting id none }

/-- Adds, flushes and questions along the clock; the report shows the metrics and the messages that got
as far as the broker. -/
def simulation (α : Type) : Simulation (Scene α) (Request α) (Reply α) (Metrics × Nat) where
  launch now id request s := s.launch now id request
  act? first now s := s.act? first now
  dues s := (List.range s.bound).flatMap fun id => duesOf id s.buffer s.outlets
  reply? s id := s.reply? id
  abandon now id s := s.abandon now id
  report _ s := (s, s.buffer.metrics, s.outlets.transport.attempts)

end Scene

end ProfileGuard.Buffer
