import ProfileGuard.Buffer.Event
import ProfileGuard.Buffer.Lock
import ProfileGuard.Buffer.Settings
import ProfileGuard.Metrics
import ProfileGuard.Saturating

/-!
# The event buffer

A bounded list of events that wait to be delivered.  A full buffer hands its whole content to overflow
storage before it takes another event, and holds its lock meanwhile.  A flush delivers a snapshot in
order, without the lock, and takes out of the buffer what was delivered; flushes wait for one another.

Adds, flushes and views overlap.  A step is one thing that happens at one instant: an operation begins,
goes on once it has the lock it waits for, an outcome of storage or transport arrives, a deadline
passes, or an operation is dropped.  What cannot happen leaves everything as it is.

* **`Buffer`** — the events, the locks, the metrics and the stage of every operation.
* **`Buffer.Label`** — what can happen.
* **`Buffer.step`** / **`Buffer.run`** — one step, and a run of steps.
-/

namespace ProfileGuard

namespace Buffer

/-- A flush that delivers its snapshot. -/
structure Delivery where
  /-- The time for the whole flush, and when it is over. -/
  limit : Duration
  expires : Instant
  /-- The events not yet tried; the first is being sent. -/
  remaining : List Event
  /-- The identifiers of delivered events, and of those whose delivery failed. -/
  delivered : List String := []
  failed : List String := []
  lastError : Option Failure := none
  /-- Whether the deadline passed before every event was tried. -/
  cancelled : Bool := false

/-- What a flush reports. -/
def Delivery.result (d : Delivery) : Except Error Nat :=
  if d.cancelled then .error (.cancelled d.delivered.length d.limit)
  else match d.lastError with
    | some e => .error (.partialFlush d.delivered.length d.failed.length e)
    | none => .ok d.delivered.length

/-- The delivery after the outcome of its present send. -/
def Delivery.after (d : Delivery) (event : Event) (rest : List Event) :
    Except Failure Unit → Delivery
  | .ok _ => { d with remaining := rest, delivered := d.delivered.insert event.id }
  | .error e => { d with remaining := rest, failed := d.failed.insert event.id, lastError := some e }

/-- How an operation on the buffer ends. -/
inductive Reply where
  | added (result : Except Error Unit)
  | flushed (result : Except Error Nat)
  /-- The events in the buffer. -/
  | viewed (events : List Event)

/-- How far an operation on the buffer has come. -/
inductive Stage where
  | idle
  /-- An add waits for the lock. -/
  | adding (event : Event)
  /-- An add holds the lock while overflow storage takes the content. -/
  | spilling (event : Event) (expires : Instant)
  /-- A flush waits for the flush before it. -/
  | flushing (limit : Duration)
  /-- A flush waits for the lock to take its snapshot. -/
  | reading (limit : Duration)
  /-- A flush delivers its snapshot without the lock. -/
  | sending (delivery : Delivery)
  /-- A flush waits for the lock to take out what was delivered. -/
  | closing (delivery : Delivery)
  /-- A view waits for the lock. -/
  | viewing
  | finished (reply : Reply)
  /-- The operation has no reply: it was abandoned before its end, or broke off. -/
  | dropped

/-- What can happen to a buffer. -/
inductive Label where
  | add (id : TaskId) (event : Event)
  | flush (id : TaskId) (limit : Duration)
  | view (id : TaskId)
  /-- An operation goes on with the lock it waited for. -/
  | resume (id : TaskId)
  /-- Overflow storage answers. -/
  | stored (id : TaskId) (result : Except Failure Unit)
  /-- Overflow storage has taken too long. -/
  | storeExpired (id : TaskId)
  /-- The transport answers. -/
  | sent (id : TaskId) (result : Except Failure Unit)
  /-- The transport has taken too long. -/
  | sendExpired (id : TaskId)
  | abort (id : TaskId)

end Buffer

open Buffer

/-- A buffer and the operations on it. -/
structure Buffer where
  settings : Buffer.Settings
  /-- Whether there is overflow storage. -/
  hasSink : Bool
  /-- Whether there is a transport. -/
  hasTransport : Bool
  /-- The events that wait, oldest first. -/
  events : List Event
  /-- The lock on the events. -/
  lock : Lock
  /-- The lock that keeps flushes apart. -/
  flushLock : Lock
  metrics : Metrics
  stages : Tasks Stage
  /-- Every event a flush has delivered, oldest first. -/
  delivered : List Event
  /-- Every event overflow storage has taken, oldest first. -/
  persisted : List Event

namespace Buffer

/-- An empty buffer. -/
def start (settings : Settings) (hasSink hasTransport : Bool) : Buffer where
  settings
  hasSink
  hasTransport
  events := []
  lock := {}
  flushLock := {}
  metrics := Metrics.named settings.metricsFamily
  stages := fun _ => .idle
  delivered := []
  persisted := []

/-- The buffer with an operation at another stage. -/
def withStage (b : Buffer) (id : TaskId) (stage : Stage) : Buffer :=
  { b with stages := b.stages.set id stage }

/-- The buffer with other events, their number shown by the gauge. -/
def hold (b : Buffer) (events : List Event) : Buffer :=
  { b with
    events
    metrics := { b.metrics with size := b.metrics.size.set (UInt64.ofNat events.length) } }

/-! ### Adding -/

/-- An add ends and gives back the lock. -/
def endAdd (b : Buffer) (id : TaskId) (result : Except Error Unit) : Buffer :=
  { b.withStage id (.finished (.added result)) with lock := b.lock.release }

/-- The event becomes the last one. -/
def append (b : Buffer) (id : TaskId) (event : Event) : Buffer :=
  let b := b.hold (b.events ++ [event])
  { b with metrics := { b.metrics with buffered := b.metrics.buffered.increment } }.endAdd id (.ok ())

/-- The event is refused. -/
def reject (b : Buffer) (id : TaskId) : Buffer :=
  { b with metrics := { b.metrics with dropped := b.metrics.dropped.increment } }.endAdd id
    (.error (.full b.settings.capacity))

/-- The event is appended if there is room for it. -/
def appendOrReject (b : Buffer) (id : TaskId) (event : Event) : Buffer :=
  if b.events.length < b.settings.capacity then b.append id event else b.reject id

/-- An add has the lock: a known event is accepted as it is, and a full buffer is spilled first. -/
def place (b : Buffer) (now : Instant) (id : TaskId) (event : Event) : Buffer :=
  if b.events.any (·.id == event.id) then b.endAdd id (.ok ())
  else if b.events.length < b.settings.capacity ∨ !b.hasSink then b.appendOrReject id event
  else b.withStage id (.spilling event (now + b.settings.persistLimit))

/-- Overflow storage has taken everything. -/
def spilled (b : Buffer) : Buffer :=
  let count := UInt64.ofNat b.events.length
  let b := { b with
    persisted := b.persisted ++ b.events
    metrics := { b.metrics with persisted := b.metrics.persisted.add count } }
  b.hold []

/-! ### Flushing -/

/-- A flush ends and lets the next one begin. -/
def endFlush (b : Buffer) (id : TaskId) (result : Except Error Nat) : Buffer :=
  { b.withStage id (.finished (.flushed result)) with flushLock := b.flushLock.release }

/-- A flush has the lock and takes its snapshot.  If the clock cannot tell when the flush is to be over,
it breaks off before anything is sent. -/
def snapshot (b : Buffer) (now : Instant) (id : TaskId) (limit : Duration) : Buffer :=
  let b := { b with lock := b.lock.release }
  match b.events, Instant.after? now limit with
  | [], _ => b.endFlush id (.ok 0)
  | events, some expires => b.withStage id (.sending { limit, expires, remaining := events })
  | _, none => { b.withStage id .dropped with flushLock := b.flushLock.release }

/-- A flush has tried what it could and asks for the lock. -/
def requestClose (b : Buffer) (id : TaskId) (d : Delivery) : Buffer :=
  { b.withStage id (.closing d) with lock := b.lock.request id }

/-- A flush goes on to its next event, if there is one. -/
def goOn (b : Buffer) (id : TaskId) (d : Delivery) : Buffer :=
  if d.remaining.isEmpty then b.requestClose id d else b.withStage id (.sending d)

/-- An event after a flush: one whose delivery failed has one more retry. -/
def retried (failed : List String) (event : Event) : Event :=
  if event.id ∈ failed then { event with retries := raise event.retries } else event

/-- A flush has the lock and takes out what it delivered. -/
def close (b : Buffer) (id : TaskId) (d : Delivery) : Buffer :=
  let kept := b.events.filter fun event => !d.delivered.contains event.id
  let b := b.hold (kept.map (retried d.failed))
  let flushed := b.metrics.flushed.add (UInt64.ofNat d.delivered.length)
  { b with lock := b.lock.release, metrics := { b.metrics with flushed } }.endFlush id d.result

/-! ### Steps -/

/-- An operation goes on with the lock it waited for. -/
def resume (b : Buffer) (now : Instant) (id : TaskId) : Buffer :=
  match b.stages id with
  | .adding event => if b.lock.isHeldBy id then b.place now id event else b
  | .flushing limit =>
    if b.flushLock.isHeldBy id then
      { b.withStage id (.reading limit) with lock := b.lock.request id }
    else b
  | .reading limit => if b.lock.isHeldBy id then b.snapshot now id limit else b
  | .closing d => if b.lock.isHeldBy id then b.close id d else b
  | .viewing =>
    if b.lock.isHeldBy id then
      { b.withStage id (.finished (.viewed b.events)) with lock := b.lock.release }
    else b
  | _ => b

/-- An operation is abandoned where it waits, and gives up its locks. -/
def abort (b : Buffer) (id : TaskId) : Buffer :=
  match b.stages id with
  | .adding _ | .spilling _ _ | .viewing => { b.withStage id .dropped with lock := b.lock.leave id }
  | .flushing _ | .sending _ => { b.withStage id .dropped with flushLock := b.flushLock.leave id }
  | .reading _ | .closing _ =>
    { b.withStage id .dropped with lock := b.lock.leave id, flushLock := b.flushLock.leave id }
  | .idle | .finished _ | .dropped => b

/-- A new operation begins at a stage. -/
def begin (b : Buffer) (id : TaskId) (stage : Stage) : Buffer :=
  match b.stages id, stage with
  | .idle, .flushing limit =>
    if b.hasTransport then
      { b.withStage id (.flushing limit) with flushLock := b.flushLock.request id }
    else b.withStage id (.finished (.flushed (.error .noTransport)))
  | .idle, stage => { b.withStage id stage with lock := b.lock.request id }
  | _, _ => b

/-- One step at an instant. -/
def step (now : Instant) (b : Buffer) : Label → Buffer
  | .add id event => b.begin id (.adding event)
  | .flush id limit => b.begin id (.flushing limit)
  | .view id => b.begin id .viewing
  | .resume id => b.resume now id
  | .stored id result =>
    match b.stages id, result with
    | .spilling event _, .ok _ => b.spilled.appendOrReject id event
    | .spilling event _, .error _ => b.appendOrReject id event
    | _, _ => b
  | .storeExpired id =>
    match b.stages id with
    | .spilling event _ => b.appendOrReject id event
    | _ => b
  | .sent id result =>
    match b.stages id with
    | .sending d =>
      match d.remaining, result with
      | event :: rest, .ok _ =>
        { b with delivered := b.delivered ++ [event] }.goOn id (d.after event rest result)
      | event :: rest, .error _ => b.goOn id (d.after event rest result)
      | [], _ => b
    | _ => b
  | .sendExpired id =>
    match b.stages id with
    | .sending d => b.requestClose id { d with cancelled := true }
    | _ => b
  | .abort id => b.abort id

/-- A run of steps, each at its instant. -/
def run (b : Buffer) (steps : List (Instant × Label)) : Buffer :=
  steps.foldl (fun b s => b.step s.1 s.2) b

end Buffer

end ProfileGuard
