import ProfileGuard.Breaker.Basic
import ProfileGuard.Tasks

/-!
# Overlapping calls through a breaker

Any number of calls are in flight through one breaker.  A step is one thing that happens at one
instant: a call begins, succeeds, fails, runs into its deadline or is dropped, or someone looks at the
breaker.  What cannot happen leaves everything as it is.

* **`Breaker.Traffic`** — a breaker with the stage of every call.
* **`Breaker.Event`** — what can happen.
* **`Breaker.Traffic.step`** / **`Breaker.Traffic.run`** — one step, and a run of steps.
-/

namespace ProfileGuard.Breaker

/-- A call that was let through. -/
structure Flight where
  /-- The generation it belongs to. -/
  generation : UInt64
  began : Instant
  /-- The time it is given, if it is not left to take as long as it wants. -/
  limit : Option Duration

/-- How far a call has come. -/
inductive Stage where
  | idle
  | inFlight (flight : Flight)
  /-- The call is over; the operation was started unless the breaker refused it. -/
  | finished (result : Except (CallError Failure) Unit)
  /-- The call was abandoned before its end. -/
  | dropped
  /-- The operation ended, well or not, and the breaker broke off when it was told: the call has no
  result. -/
  | cutOff (success : Bool)

/-- What can happen to the calls through one breaker. -/
inductive Event where
  /-- A call begins, perhaps with a deadline. -/
  | call (id : TaskId) (limit : Option Duration)
  /-- The operation of a call ends with its own result. -/
  | settle (id : TaskId) (result : Except Failure Unit)
  /-- The deadline of a call passes. -/
  | expire (id : TaskId)
  /-- A call is abandoned. -/
  | drop (id : TaskId)
  /-- Someone looks at the breaker. -/
  | observe

/-- A breaker and the calls through it. -/
structure Traffic where
  breaker : Breaker
  stages : Tasks Stage

namespace Traffic

/-- A fresh breaker without calls. -/
def start (settings : Settings) (now : Instant) : Traffic :=
  ⟨Breaker.start settings now, fun _ => .idle⟩

/-- The name of the guarded dependency. -/
def name (t : Traffic) : String := t.breaker.settings.name

/-- A call begins. -/
def call (t : Traffic) (now : Instant) (id : TaskId) (limit : Option Duration) : Traffic :=
  match t.breaker.acquire now with
  | (breaker, .ok generation) => ⟨breaker, t.stages.set id (.inFlight ⟨generation, now, limit⟩)⟩
  | (breaker, .error refusal) =>
    ⟨breaker, t.stages.set id (.finished (.error (refusal.toCallError t.name)))⟩

/-- A call in flight ends at a stage. -/
def finish (t : Traffic) (now : Instant) (id : TaskId) (flight : Flight) (success : Bool)
    (stage : Stage) : Traffic :=
  ⟨t.breaker.record now flight.generation success, t.stages.set id stage⟩

/-- A call in flight comes to an end, and to the given stage unless the breaker breaks off. -/
def conclude (t : Traffic) (now : Instant) (id : TaskId) (flight : Flight) (success : Bool)
    (stage : Stage) : Traffic :=
  t.finish now id flight success
    (if t.breaker.breaksOff now flight.generation success then .cutOff success else stage)

/-- One step at an instant. -/
def step (now : Instant) (t : Traffic) : Event → Traffic
  | .call id limit =>
    match t.stages id with
    | .idle => t.call now id limit
    | _ => t
  | .settle id result =>
    match t.stages id, result with
    | .inFlight flight, .ok _ => t.conclude now id flight true (.finished (.ok ()))
    | .inFlight flight, .error e => t.conclude now id flight false (.finished (.error (.service e)))
    | _, _ => t
  | .expire id =>
    match t.stages id with
    | .inFlight ⟨generation, began, some limit⟩ =>
      t.conclude now id ⟨generation, began, some limit⟩ false
        (.finished (.error (.timeout t.name limit)))
    | _ => t
  | .drop id =>
    match t.stages id with
    | .inFlight flight => t.conclude now id flight false .dropped
    | _ => t
  | .observe => { t with breaker := t.breaker.poll now }

/-- A run of steps, each at its instant. -/
def run (t : Traffic) (steps : List (Instant × Event)) : Traffic :=
  steps.foldl (fun t s => t.step s.1 s.2) t

end Traffic

end ProfileGuard.Breaker
