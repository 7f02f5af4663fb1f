import ProfileGuard.Buffer.Event
import ProfileGuard.Failure
import ProfileGuard.Tasks

/-!
# In-memory outlets

A transport and an overflow storage that keep what they are given.  Both take a settable time for each
answer and can be made to fail, which is enough to act out any outage.

* **`Outlets.Transport`** / **`Outlets.Sink`** — the two outlets.
* **`Outlets`** — both, with the answers that are still awaited.
* **`Outlets.act?`** — what can happen now to a job of some task: it starts, is answered, or is late.
-/

namespace ProfileGuard

namespace Outlets

/-- A message as a transport takes it. -/
structure Message where
  topic : String
  key : String
  payload : Bytes
  deriving DecidableEq

/-- A transport that keeps what it delivers. -/
structure Transport where
  /-- Whether messages that get as far as the broker fail there. -/
  down : Bool := false
  /-- The time until the broker answers. -/
  latency : Duration := 0
  /-- The keys refused at once, each with its failure. -/
  rejected : List (String × Failure) := []
  /-- The messages that got as far as the broker. -/
  attempts : Nat := 0
  /-- The messages delivered, oldest first. -/
  sent : List Message := []

/-- An overflow storage that keeps what it takes. -/
structure Sink where
  failing : Bool := false
  /-- The time until the storage answers. -/
  latency : Duration := 0
  /-- The batches that were answered. -/
  calls : Nat := 0
  /-- The events taken, oldest first. -/
  stored : List Buffer.Event := []

/-- Something for one of the outlets. -/
inductive Job where
  | send (message : Message)
  | store (events : List Buffer.Event)

/-- An answer that is awaited. -/
structure Wait where
  due : Instant
  /-- Whether it was settled at the start that the answer is a failure. -/
  failing : Bool := false

/-- How a job ends. -/
inductive Outcome where
  | answered (result : Except Failure Unit)
  | late

end Outlets

open Outlets

/-- The outlets with the answers that are awaited. -/
structure Outlets where
  transport : Transport := {}
  sink : Option Sink := none
  waits : Tasks (Option Wait) := fun _ => none

namespace Outlets

/-- A message as it is answered by a broker that is up or down. -/
def deliver (message : Message) (t : Transport) : Transport × Except Failure Unit :=
  if t.down then (t, .error (.transport "broker unavailable"))
  else ({ t with sent := t.sent ++ [message] }, .ok ())

/-- A batch as the storage answers it. -/
def take (events : List Buffer.Event) (failing : Bool) (s : Sink) : Sink × Except Failure Unit :=
  if failing then ({ s with calls := s.calls + 1 }, .error (.storage "overflow storage unavailable"))
  else ({ s with calls := s.calls + 1, stored := s.stored ++ events }, .ok ())

/-- The outlets with the answer that a task awaits. -/
def awaiting (o : Outlets) (id : TaskId) (wait : Option Wait) : Outlets :=
  { o with waits := o.waits.set id wait }

/-- A job starts; one that is refused at once ends there. -/
def start (o : Outlets) (now : Instant) (id : TaskId) : Job → Outlets × Option Outcome
  | .send message =>
    match o.transport.rejected.lookup message.key with
    | some failure => (o, some (.answered (.error failure)))
    | none =>
      let o := o.awaiting id (some { due := now + o.transport.latency })
      ({ o with transport := { o.transport with attempts := o.transport.attempts + 1 } }, none)
  | .store _ =>
    match o.sink with
    | some sink => (o.awaiting id (some ⟨now + sink.latency, sink.failing⟩), none)
    | none => (o, some (.answered (.error (.storage "no overflow storage"))))

/-- The awaited answer arrives. -/
def answer (o : Outlets) (id : TaskId) (wait : Wait) (job : Job) :
    Outlets × Option Outcome :=
  let o := o.awaiting id none
  match job, o.sink with
  | .send message, _ =>
    let (transport, result) := deliver message o.transport
    ({ o with transport }, some (.answered result))
  | .store events, some sink =>
    let (sink, result) := take events wait.failing sink
    ({ o with sink := some sink }, some (.answered result))
  | .store _, none => (o, some (.answered (.error (.storage "no overflow storage"))))

/-- What can happen now to the job of a task with a deadline: an answer that is due comes before the
deadline. -/
def act? (o : Outlets) (now : Instant) (id : TaskId) (job : Job) (expires : Instant) :
    Option (Outlets × Option Outcome) :=
  match o.waits id with
  | none => some (o.start now id job)
  | some wait =>
    if wait.due ≤ now then some (o.answer id wait job)
    else if expires ≤ now then some (o.awaiting id none, some .late)
    else none

/-- When something is due for the job of a task. -/
def dues (o : Outlets) (id : TaskId) (expires : Instant) : List Instant :=
  match o.waits id with
  | none => []
  | some wait => [wait.due, expires]

end Outlets

end ProfileGuard
