import ProfileGuard.Audit.Event
import ProfileGuard.Breaker.Basic
import ProfileGuard.Buffer.Basic
import ProfileGuard.Buffer.Outlets

/-!
# The audit producer

Events are sent to the message broker through a breaker, each with a deadline.  An event that the broker
does not take goes to a local buffer, so that an outage never fails the request it is about.

Sends, flushes and the operations on the buffer overlap.  A step is one thing that happens at one
instant; what cannot happen leaves everything as it is.

* **`Audit.Producer`** — breaker, buffer and the stage of every operation.
* **`Audit.Producer.Label`** — what can happen.
* **`Audit.Producer.step`** / **`Audit.Producer.run`** — one step, and a run of steps.
-/

namespace ProfileGuard.Audit

namespace Producer

/-- Where and how events are sent. -/
structure Settings where
  topic : String := "user-profile.audit"
  /-- The time for a single send. -/
  sendLimit : Duration := Duration.ofSeconds 5
  buffer : Buffer.Settings := { metricsFamily := "audit" }

/-- How an operation ends before it reaches the buffer, or without it. -/
inductive Reply where
  | produced (result : Except Error Unit)
  | flushed (result : Except Error Nat)

/-- How far an operation has come. -/
inductive Stage where
  | idle
  /-- The broker has been given an event. -/
  | sending (event : Event) (generation : UInt64) (expires : Instant)
  /-- The operation goes on in the buffer, under the same number. -/
  | buffering
  | finished (reply : Reply)
  /-- The operation has no reply: it was abandoned before its end, or the breaker broke off. -/
  | dropped

/-- What can happen to a producer. -/
inductive Label where
  | produce (id : TaskId) (event : Event)
  /-- The broker answers. -/
  | sent (id : TaskId) (result : Except Failure Unit)
  /-- The broker has taken too long. -/
  | sendExpired (id : TaskId)
  | flush (id : TaskId)
  /-- The buffered events are looked at. -/
  | view (id : TaskId)
  /-- Something happens in the buffer. -/
  | buffer (label : Buffer.Label)
  /-- No more events are taken. -/
  | close
  /-- Someone looks at the breaker. -/
  | observe
  | abort (id : TaskId)

end Producer

open Producer

/-- A producer and the operations on it. -/
structure Producer where
  settings : Producer.Settings
  breaker : Breaker
  buffer : Buffer
  closed : Bool
  stages : Tasks Stage
  /-- Every message that the broker took directly, oldest first. -/
  delivered : List Outlets.Message

namespace Producer

/-- A producer that sends through a breaker, perhaps with overflow storage. -/
def start (settings : Producer.Settings) (breaker : Breaker) (hasSink : Bool) : Producer where
  settings
  breaker
  buffer := Buffer.start settings.buffer hasSink true
  closed := false
  stages := fun _ => .idle
  delivered := []

/-- The producer with an operation at another stage. -/
def withStage (p : Producer) (id : TaskId) (stage : Stage) : Producer :=
  { p with stages := p.stages.set id stage }

/-- The message that carries an event. -/
def message (p : Producer) (event : Event) : Outlets.Message :=
  ⟨p.settings.topic, event.userId, event.toJson⟩

/-- The buffered form of an event. -/
def bufferedEvent (p : Producer) (now : Instant) (event : Event) : Buffer.Event where
  id := event.id.text
  topic := p.settings.topic
  key := event.userId
  payload := event.toJson
  created := .atInstant now

/-- An event that the broker did not take goes to the buffer. -/
def keep (p : Producer) (now : Instant) (id : TaskId) (event : Event) : Producer :=
  { p with buffer := p.buffer.step now (.add id (p.bufferedEvent now event)) }.withStage id .buffering

/-- An event is given to the broker, unless the breaker refuses. -/
def produce (p : Producer) (now : Instant) (id : TaskId) (event : Event) : Producer :=
  if p.closed then p.withStage id (.finished (.produced (.error .producerClosed)))
  else
    match p.breaker.acquire now with
    | (breaker, .ok generation) =>
      { p with breaker }.withStage id (.sending event generation (now + p.settings.sendLimit))
    | (breaker, .error _) => { p with breaker }.keep now id event

/-- A flush begins, unless the breaker is open. -/
def flush (p : Producer) (now : Instant) (id : TaskId) : Producer :=
  let p := { p with breaker := p.breaker.poll now }
  if p.breaker.circuit.phase = .opened then
    p.withStage id (.finished (.flushed (.error (.broker (.circuitOpen p.breaker.settings.name)))))
  else
    { p with buffer := p.buffer.step now (.flush id p.settings.buffer.flushLimit) }.withStage id
      .buffering

/-- The send of an event ends. -/
def settle (p : Producer) (now : Instant) (generation : UInt64) (success : Bool) : Producer :=
  { p with breaker := p.breaker.record now generation success }

/-- The send of an event ends, and its operation goes on unless the breaker breaks off. -/
def conclude (p : Producer) (now : Instant) (id : TaskId) (generation : UInt64) (success : Bool)
    (goOn : Producer → Producer) : Producer :=
  let settled := p.settle now generation success
  if p.breaker.breaksOff now generation success then settled.withStage id .dropped else goOn settled

/-- One step at an instant. -/
def step (now : Instant) (p : Producer) : Label → Producer
  | .produce id event =>
    match p.stages id with
    | .idle => p.produce now id event
    | _ => p
  | .sent id result =>
    match p.stages id, result with
    | .sending event generation _, .ok _ =>
      let p := { p with delivered := p.delivered ++ [p.message event] }
      p.conclude now id generation true (·.withStage id (.finished (.produced (.ok ()))))
    | .sending event generation _, .error _ =>
      p.conclude now id generation false (·.keep now id event)
    | _, _ => p
  | .sendExpired id =>
    match p.stages id with
    | .sending event generation _ => p.conclude now id generation false (·.keep now id event)
    | _ => p
  | .flush id =>
    match p.stages id with
    | .idle => p.flush now id
    | _ => p
  | .view id =>
    match p.stages id with
    | .idle => { p with buffer := p.buffer.step now (.view id) }.withStage id .buffering
    | _ => p
  | .buffer label =>
    match label with
    | .add .. | .flush .. | .view .. | .abort .. => p
    | label => { p with buffer := p.buffer.step now label }
  | .close => { p with closed := true }
  | .observe => { p with breaker := p.breaker.poll now }
  | .abort id =>
    match p.stages id with
    | .sending _ generation _ => (p.settle now generation false).withStage id .dropped
    | .buffering => { p with buffer := p.buffer.step now (.abort id) }
    | _ => p

/-- How an operation on the buffer ended, if it was one that adds or flushes. -/
def replyOf? : Buffer.Stage → Option Reply
  | .finished (.added result) => some (.produced (result.mapError .buffer))
  | .finished (.flushed result) => some (.flushed (result.mapError .buffer))
  | _ => none

/-- How an operation ended, if it was one that produces or flushes. -/
def reply? (p : Producer) (id : TaskId) : Option Reply :=
  match p.stages id with
  | .finished reply => some reply
  | .buffering => replyOf? (p.buffer.stages id)
  | _ => none

/-- A run of steps, each at its instant. -/
def run (p : Producer) (steps : List (Instant × Label)) : Producer :=
  steps.foldl (fun p s => p.step s.1 s.2) p

end Producer

end ProfileGuard.Audit
