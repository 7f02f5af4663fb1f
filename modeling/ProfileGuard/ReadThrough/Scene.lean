import ProfileGuard.Breaker.Switchboard
import ProfileGuard.ReadThrough.Basic

/-!
# Reads along the clock

* **`ReadThrough.Link`** — how fast the cache answers, and whether it is down.
* **`ReadThrough.Scene`** — reads through a cache, with what is known of their loaders.
* **`ReadThrough.Scene.simulation`** — reads, calls and questions along the clock.
-/

namespace ProfileGuard.ReadThrough

/-- How the cache answers. -/
structure Link where
  down : Bool := false
  /-- The time for a read, and for a write. -/
  getLatency : Duration := 0
  setLatency : Duration := 0

/-- What the cache answers after the time it takes. -/
def Link.result (l : Link) : Except Failure Unit :=
  if l.down then .error (.unavailable "cache unavailable") else .ok ()

/-- What the primary store answers to a read, and the time it takes. -/
structure Loader (α : Type) where
  latency : Duration := 0
  result : Except Failure α

/-- Reads through a cache and the questions asked, answered by `β`. -/
structure Scene (α β : Type) where
  reads : ReadThrough α
  link : Link := {}
  /-- The primary store's answer to every read. -/
  loaders : Tasks (Option (Loader α)) := fun _ => none
  /-- The plan of every other call. -/
  plans : Tasks (Option Breaker.Plan) := fun _ => none
  /-- When the cache or the primary store answers a read. -/
  waits : Tasks (Option Instant) := fun _ => none
  /-- When the cache answers a refill. -/
  refillWaits : Tasks (Option Instant) := fun _ => none
  /-- The answers to questions. -/
  answers : Tasks (Option β) := fun _ => none
  /-- All tasks have numbers below this one. -/
  bound : TaskId := 0

namespace Scene

variable {α β : Type}

/-- A task of a scene. -/
inductive Request (α β : Type) where
  | get (key : String) (loader : Loader α)
  /-- A call to the cache that is no read. -/
  | call (plan : Breaker.Plan)
  /-- A question, which may touch reads and link. -/
  | ask (question : Instant → ReadThrough α → Link → ReadThrough α × Link × β)

/-- How a task of a scene ends. -/
inductive Reply (α β : Type) where
  | fetched (result : Except Failure (Fetched α))
  | called (result : Except (Breaker.CallError Failure) Unit)
  | answer (value : β)

/-- How often the loader of a read was started. -/
def loads : Except Failure (Fetched α) → Nat
  | .ok fetched => if fetched.fromCache then 0 else 1
  | .error _ => 1

/-- Something happens to the reads; a read that goes on waits anew. -/
def happen (s : Scene α β) (now : Instant) (id : TaskId) (label : Label α) : Scene α β :=
  { s with reads := s.reads.step now label, waits := s.waits.set id none }

/-- A task begins. -/
def launch (now : Instant) (id : TaskId) (request : Request α β) (s : Scene α β) : Scene α β :=
  let s := { s with bound := max s.bound (id + 1) }
  match request with
  | .get key loader => { s.happen now id (.get id key) with loaders := s.loaders.set id (some loader) }
  | .call plan => { s.happen now id (.call id plan.limit) with plans := s.plans.set id (some plan) }
  | .ask question =>
    let (reads, link, value) := question now s.reads s.link
    { s with reads, link, answers := s.answers.set id (some value) }

/-- A wait of a read begins, or ends if it is due. -/
def await? (now : Instant) (s : Scene α β) (id : TaskId) (latency : Duration) (label : Label α) :
    Option (Scene α β) :=
  match s.waits id with
  | none => some { s with waits := s.waits.set id (some (now + latency)) }
  | some due => if due ≤ now then some (s.happen now id label) else none

/-- What the operation with a number can do now. -/
def proceed? (now : Instant) (s : Scene α β) (id : TaskId) : Option (Scene α β) :=
  match s.reads.stages id, s.loaders id, s.plans id with
  | .asking _ _, _, _ => s.await? now id s.link.getLatency (.answered id s.link.result)
  | .loading _, some loader, _ => s.await? now id loader.latency (.loaded id loader.result)
  | .calling _, _, some plan =>
    s.await? now id plan.length (if plan.isInTime then .settle id plan.result else .expire id)
  | _, _, _ => none

/-- The refill after a read begins, if it is about to. -/
def beginRefill? (now : Instant) (s : Scene α β) (id : TaskId) : Option (Scene α β) :=
  match s.reads.refills id with
  | .pending _ _ => some { s with reads := s.reads.step now (.refill id) }
  | _ => none

/-- What a refill under way can do now: an answer that is due comes before the deadline. -/
def refill? (now : Instant) (s : Scene α β) (id : TaskId) : Option (Scene α β) :=
  match s.reads.refills id, s.refillWaits id with
  | .writing _ _ _ _, none =>
    some { s with refillWaits := s.refillWaits.set id (some (now + s.link.setLatency)) }
  | .writing _ _ _ expires, some due =>
    if due ≤ now then some { s with reads := s.reads.step now (.refilled id s.link.result) }
    else if expires ≤ now then some { s with reads := s.reads.step now (.refillExpired id) }
    else none
  | _, _ => none

/-- The first task in turn that can do something does it; refills begin after that, so that reads that
are answered at one instant do not see the refills of one another. -/
def act? (first : Option TaskId) (now : Instant) (s : Scene α β) : Option (Scene α β) :=
  let turns := Simulation.turns first s.bound
  (turns.findSome? fun id => (s.proceed? now id).or (s.refill? now id)).or
    (turns.findSome? (s.beginRefill? now))

/-- When something is due for a read or its refill. -/
def duesOf (s : Scene α β) (id : TaskId) : List Instant :=
  (s.waits id).toList ++
    match s.reads.refills id with
    | .writing _ _ _ expires => expires :: (s.refillWaits id).toList
    | _ => []

/-- How a task ended. -/
def reply? (s : Scene α β) (id : TaskId) : Option (Reply α β) :=
  match s.answers id, s.reads.stages id with
  | some value, _ => some (.answer value)
  | none, .finished result => some (.fetched result)
  | none, .called result => some (.called result)
  | none, _ => none

/-- Reads, calls and questions along the clock. -/
def simulation (α β : Type) :
    Simulation (Scene α β) (Request α β) (Reply α β) (ReadThrough α) where
  launch now id request s := s.launch now id request
  act? first now s := s.act? first now
  dues s := (List.range s.bound).flatMap s.duesOf
  reply? s id := s.reply? id
  abandon now id s := s.happen now id (.drop id)
  report _ s := (s, s.reads)

end Scene

end ProfileGuard.ReadThrough
