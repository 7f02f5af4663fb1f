import ProfileGuard.Breaker.Traffic
import ProfileGuard.Metrics

/-!
# Reading through a cache

A value is read from a cache that is guarded by a breaker.  If the cache has no answer, for whatever
reason, the value is loaded from the primary store, and put into the cache afterwards by a refill that
nobody waits for.

Reads, refills and other calls to the cache overlap.  A step is one thing that happens at one instant;
what cannot happen leaves everything as it is.

* **`ReadThrough`** — breaker, cache, metrics and the stage of every operation.
* **`ReadThrough.Label`** — what can happen.
* **`ReadThrough.step`** / **`ReadThrough.run`** — one step, and a run of steps.
-/

namespace ProfileGuard

namespace ReadThrough

/-- A value with where it came from. -/
structure Fetched (α : Type) where
  value : α
  fromCache : Bool
  deriving DecidableEq

/-- How far a read, or another call to the cache, has come. -/
inductive Stage (α : Type) where
  | idle
  /-- The cache is asked. -/
  | asking (key : String) (generation : UInt64)
  /-- The primary store is asked. -/
  | loading (key : String)
  | finished (result : Except Failure (Fetched α))
  /-- A call to the cache that is no read. -/
  | calling (flight : Breaker.Flight)
  | called (result : Except (Breaker.CallError Failure) Unit)
  /-- The operation has no result: it was abandoned before its end, or the breaker broke off. -/
  | dropped

/-- How far the refill after a read has come. -/
inductive Refill (α : Type) where
  | none
  /-- The refill is about to begin. -/
  | pending (key : String) (value : α)
  /-- The cache is given the value. -/
  | writing (key : String) (value : α) (generation : UInt64) (expires : Instant)
  | over

/-- What can happen to reads through a cache. -/
inductive Label (α : Type) where
  | get (id : TaskId) (key : String)
  /-- The cache answers a read: with what it holds, or with a failure. -/
  | answered (id : TaskId) (result : Except Failure Unit)
  /-- The primary store answers. -/
  | loaded (id : TaskId) (result : Except Failure α)
  /-- The refill after a read begins. -/
  | refill (id : TaskId)
  /-- The cache answers a refill. -/
  | refilled (id : TaskId) (result : Except Failure Unit)
  /-- The cache has taken too long over a refill. -/
  | refillExpired (id : TaskId)
  /-- A value is put into the cache from outside. -/
  | seed (key : String) (value : α)
  /-- Another call to the cache begins, perhaps with a deadline. -/
  | call (id : TaskId) (limit : Option Duration)
  /-- Another call to the cache ends. -/
  | settle (id : TaskId) (result : Except Failure Unit)
  /-- The deadline of another call passes. -/
  | expire (id : TaskId)
  /-- Someone looks at the breaker. -/
  | observe
  | drop (id : TaskId)

end ReadThrough

open ReadThrough

/-- A cache behind a breaker, with the reads through it. -/
structure ReadThrough (α : Type) where
  breaker : Breaker
  /-- The time for a refill. -/
  refillLimit : Duration
  /-- What the cache holds; the first entry of a key counts. -/
  cache : List (String × α)
  metrics : Metrics
  stages : Tasks (Stage α)
  refills : Tasks (Refill α)

namespace ReadThrough

variable {α : Type}

/-- The time for a refill, unless another one is given. -/
def defaultRefillLimit : Duration := Duration.ofSeconds 1

/-- An empty cache behind a breaker. -/
def start (breaker : Breaker) (refillLimit : Duration) : ReadThrough α where
  breaker
  refillLimit
  cache := []
  metrics := Metrics.named breaker.settings.name
  stages := fun _ => .idle
  refills := fun _ => .none

/-- The reads with one at another stage. -/
def withStage (r : ReadThrough α) (id : TaskId) (stage : Stage α) : ReadThrough α :=
  { r with stages := r.stages.set id stage }

/-- The reads with the refill after one at another stage. -/
def withRefill (r : ReadThrough α) (id : TaskId) (refill : Refill α) : ReadThrough α :=
  { r with refills := r.refills.set id refill }

/-- A guarded call to the cache ends. -/
def record (r : ReadThrough α) (now : Instant) (generation : UInt64) (success : Bool) :
    ReadThrough α :=
  { r with breaker := r.breaker.record now generation success }

/-- A guarded call to the cache ends, and the operation it was for goes on unless the breaker breaks
off. -/
def conclude (r : ReadThrough α) (now : Instant) (id : TaskId) (generation : UInt64) (success : Bool)
    (goOn : ReadThrough α → ReadThrough α) : ReadThrough α :=
  let ended := r.record now generation success
  if r.breaker.breaksOff now generation success then ended.withStage id .dropped else goOn ended

/-- The value that the cache holds for a key. -/
def cached? (r : ReadThrough α) (key : String) : Option α := r.cache.lookup key

/-- A value is put into the cache. -/
def store (r : ReadThrough α) (key : String) (value : α) : ReadThrough α :=
  { r with cache := (key, value) :: r.cache }

/-- A read begins: the cache is asked unless the breaker refuses. -/
def get (r : ReadThrough α) (now : Instant) (id : TaskId) (key : String) : ReadThrough α :=
  match r.breaker.acquire now with
  | (breaker, .ok generation) => { r with breaker }.withStage id (.asking key generation)
  | (breaker, .error _) => { r with breaker }.withStage id (.loading key)

/-- The cache has answered: its value ends the read, otherwise the primary store is asked. -/
def look (r : ReadThrough α) (id : TaskId) (key : String) : ReadThrough α :=
  match r.cached? key with
  | some value =>
    { r with metrics := { r.metrics with hits := r.metrics.hits.increment } }.withStage id
      (.finished (.ok ⟨value, true⟩))
  | none => r.withStage id (.loading key)

/-- The primary store has given a value: the read ends, and unless the breaker is open a refill is
about to begin. -/
def deliver (r : ReadThrough α) (now : Instant) (id : TaskId) (key : String) (value : α) :
    ReadThrough α :=
  let r := { r with
    metrics := { r.metrics with fallbacks := r.metrics.fallbacks.increment }
    breaker := r.breaker.poll now }
  let r := r.withStage id (.finished (.ok ⟨value, false⟩))
  if r.breaker.circuit.phase = .opened then r else r.withRefill id (.pending key value)

/-- A refill begins, unless the breaker refuses. -/
def beginRefill (r : ReadThrough α) (now : Instant) (id : TaskId) (key : String) (value : α) :
    ReadThrough α :=
  match r.breaker.acquire now with
  | (breaker, .ok generation) =>
    { r with breaker }.withRefill id (.writing key value generation (now + r.refillLimit))
  | (breaker, .error _) => { r with breaker }.withRefill id .over

/-- Another call to the cache begins, unless the breaker refuses. -/
def call (r : ReadThrough α) (now : Instant) (id : TaskId) (limit : Option Duration) :
    ReadThrough α :=
  match r.breaker.acquire now with
  | (breaker, .ok generation) =>
    { r with breaker }.withStage id (.calling ⟨generation, now, limit⟩)
  | (breaker, .error refusal) =>
    { r with breaker }.withStage id
      (.called (.error (refusal.toCallError breaker.settings.name)))

/-- One step at an instant. -/
def step (now : Instant) (r : ReadThrough α) : Label α → ReadThrough α
  | .get id key =>
    match r.stages id with
    | .idle => r.get now id key
    | _ => r
  | .answered id result =>
    match r.stages id, result with
    | .asking key generation, .ok _ => r.conclude now id generation true (·.look id key)
    | .asking key generation, .error _ =>
      r.conclude now id generation false (·.withStage id (.loading key))
    | _, _ => r
  | .loaded id result =>
    match r.stages id, result with
    | .loading key, .ok value => r.deliver now id key value
    | .loading _, .error e => r.withStage id (.finished (.error e))
    | _, _ => r
  | .refill id =>
    match r.refills id with
    | .pending key value => r.beginRefill now id key value
    | _ => r
  | .refilled id result =>
    match r.refills id, result with
    | .writing key value generation _, .ok _ =>
      ((r.store key value).record now generation true).withRefill id .over
    | .writing _ _ generation _, .error _ => (r.record now generation false).withRefill id .over
    | _, _ => r
  | .refillExpired id =>
    match r.refills id with
    | .writing _ _ generation _ => (r.record now generation false).withRefill id .over
    | _ => r
  | .seed key value => r.store key value
  | .call id limit =>
    match r.stages id with
    | .idle => r.call now id limit
    | _ => r
  | .settle id result =>
    match r.stages id, result with
    | .calling flight, .ok _ =>
      r.conclude now id flight.generation true (·.withStage id (.called (.ok ())))
    | .calling flight, .error e =>
      r.conclude now id flight.generation false (·.withStage id (.called (.error (.service e))))
    | _, _ => r
  | .expire id =>
    match r.stages id with
    | .calling ⟨generation, _, some limit⟩ =>
      r.conclude now id generation false
        (·.withStage id (.called (.error (.timeout r.breaker.settings.name limit))))
    | _ => r
  | .observe => { r with breaker := r.breaker.poll now }
  | .drop id =>
    match r.stages id with
    | .asking _ generation => (r.record now generation false).withStage id .dropped
    | .loading _ => r.withStage id .dropped
    | .calling flight => (r.record now flight.generation false).withStage id .dropped
    | _ => r

/-- A run of steps, each at its instant. -/
def run (r : ReadThrough α) (steps : List (Instant × Label α)) : ReadThrough α :=
  steps.foldl (fun r s => r.step s.1 s.2) r

end ReadThrough

end ProfileGuard
