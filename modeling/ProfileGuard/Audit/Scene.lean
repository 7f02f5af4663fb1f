import ProfileGuard.Audit.Producer
import ProfileGuard.Buffer.Scene

/-!
# A producer and its outlets along the clock

* **`Audit.Scene`** — a producer, its outlets and the questions asked about them.
* **`Audit.Scene.simulation`** — events, flushes and questions along the clock.
-/

namespace ProfileGuard.Audit

/-- A producer, its outlets and the questions asked, answered by `α`. -/
structure Scene (α : Type) where
  producer : Producer
  outlets : Outlets
  /-- How the tasks that view the buffer answer. -/
  views : Tasks (Option (List Buffer.Event → α)) := fun _ => none
  /-- The answers to questions. -/
  answers : Tasks (Option α) := fun _ => none
  /-- All tasks have numbers below this one. -/
  bound : TaskId := 0

namespace Scene

variable {α : Type}

/-- A task of a scene. -/
inductive Request (α : Type) where
  /-- An event is made at this moment, and produced if there is nothing wrong with it. -/
  | produce (make : TaskId → Instant → Except Error Event)
  | flush
  /-- The buffered events are looked at. -/
  | view (answer : List Buffer.Event → α)
  /-- A question that needs no lock. -/
  | ask (question : Instant → Producer → Outlets → Producer × Outlets × α)

/-- How a task of a scene ends. -/
inductive Reply (α : Type) where
  | producer (reply : Producer.Reply)
  | answer (value : α)

/-- Something happens to the producer. -/
def happen (s : Scene α) (now : Instant) (label : Producer.Label) : Scene α :=
  { s with producer := s.producer.step now label }

/-- A task begins. -/
def launch (now : Instant) (id : TaskId) (request : Request α) (s : Scene α) : Scene α :=
  let s := { s with bound := max s.bound (id + 1) }
  match request with
  | .produce make =>
    match make id now with
    | .ok event => s.happen now (.produce id event)
    | .error e =>
      { s with producer := s.producer.withStage id (.finished (.produced (.error e))) }
  | .flush => s.happen now (.flush id)
  | .view answer => { s.happen now (.view id) with views := s.views.set id (some answer) }
  | .ask question =>
    let (producer, outlets, value) := question now s.producer s.outlets
    { s with producer, outlets, answers := s.answers.set id (some value) }

/-- What the end of a send means for the event that was sent. -/
def labelFor (id : TaskId) : Outlets.Outcome → Producer.Label
  | .answered result => .sent id result
  | .late => .sendExpired id

/-- What a task can do now. -/
def actOn? (now : Instant) (s : Scene α) (id : TaskId) : Option (Scene α) :=
  match s.producer.stages id with
  | .sending event _ expires =>
    (s.outlets.act? now id (.send (s.producer.message event)) expires).map fun
      | (outlets, none) => { s with outlets }
      | (outlets, some outcome) => { s with outlets }.happen now (labelFor id outcome)
  | .buffering =>
    (Buffer.actOn? now id s.producer.buffer s.outlets).map fun (buffer, outlets) =>
      { s with producer := { s.producer with buffer }, outlets }
  | _ => none

/-- The first task in turn that can do something does it. -/
def act? (first : Option TaskId) (now : Instant) (s : Scene α) : Option (Scene α) :=
  (Simulation.turns first s.bound).findSome? (s.actOn? now)

/-- When something is due for a task. -/
def duesOf (s : Scene α) (id : TaskId) : List Instant :=
  match s.producer.stages id with
  | .sending _ _ expires => s.outlets.dues id expires
  | .buffering => Buffer.duesOf id s.producer.buffer s.outlets
  | _ => []

/-- How a task ended. -/
def reply? (s : Scene α) (id : TaskId) : Option (Reply α) :=
  match s.answers id, s.views id with
  | some value, _ => some (.answer value)
  | none, some answer =>
    match s.producer.buffer.stages id with
    | .finished (.viewed events) => some (.answer (answer events))
    | _ => none
  | none, none => (s.producer.reply? id).map .producer

/-- A task is abandoned where it waits. -/
def abandon (now : Instant) (id : TaskId) (s : Scene α) : Scene α :=
  { s.happen now (.abort id) with outlets := s.outlets.awaiting id none }

/-- Events, flushes and questions along the clock; the report shows the producer and the messages that
got as far as the broker. -/
def simulation (α : Type) : Simulation (Scene α) (Request α) (Reply α) (Producer × Nat) where
  launch now id request s := s.launch now id request
  act? first now s := s.act? first now
  dues s := (List.range s.bound).flatMap s.duesOf
  reply? s id := s.reply? id
  abandon now id s := s.abandon now id
  report _ s := (s, s.producer, s.outlets.transport.attempts)

end Scene

end ProfileGuard.Audit
