import ProfileGuard.Breaker.Traffic
import ProfileGuard.Simulation

/-!
# Timed calls on several lines

A switchboard has lines, each with a breaker of its own.  A call on a line is planned: how long its
operation takes, how it ends, and which deadline it is given.  An operation that ends exactly at its
deadline still counts.

* **`Breaker.Plan`** — a planned call.
* **`Breaker.Switchboard`** — the lines and the plans of all calls.
* **`Breaker.Switchboard.simulation`** — planned calls and questions along the clock.
-/

namespace ProfileGuard.Breaker

/-- A planned call. -/
structure Plan where
  /-- How long the operation takes. -/
  latency : Duration := 0
  /-- How the operation ends. -/
  result : Except Failure Unit := .ok ()
  /-- The deadline that the call is given. -/
  limit : Option Duration := none

namespace Plan

/-- Whether the operation ends in time. -/
def isInTime (p : Plan) : Bool :=
  match p.limit with
  | some limit => p.latency ≤ limit
  | none => true

/-- How long the call takes. -/
def length (p : Plan) : Duration :=
  match p.limit with
  | some limit => min p.latency limit
  | none => p.latency

/-- What ends the call. -/
def ending (p : Plan) (id : TaskId) : Event :=
  if p.isInTime then .settle id p.result else .expire id

end Plan

/-- Lines named by `δ`, with questions answered by `α`. -/
structure Switchboard (δ α : Type) where
  lines : δ → Traffic
  /-- The line and the plan of every call. -/
  plans : Tasks (Option (δ × Plan)) := fun _ => none
  /-- The answers to questions. -/
  answers : Tasks (Option α) := fun _ => none
  /-- All tasks have numbers below this one. -/
  bound : TaskId := 0

namespace Switchboard

/-- A task of a switchboard. -/
inductive Request (δ α : Type) where
  | call (line : δ) (plan : Plan)
  /-- A question that may touch the lines. -/
  | ask (question : Instant → (δ → Traffic) → (δ → Traffic) × α)

/-- How a task of a switchboard ends. -/
inductive Reply (α : Type) where
  | call (result : Except (CallError Failure) Unit)
  | answer (value : α)

/-- Whether the operation of a call was started. -/
def isInvoked : Except (CallError Failure) Unit → Bool
  | .ok _ => true
  | .error e => !e.isRejection

variable {δ α : Type} [DecidableEq δ]

/-- The lines with one replaced. -/
def setLine (line : δ) (traffic : Traffic) (lines : δ → Traffic) : δ → Traffic :=
  fun other => if other = line then traffic else lines other

/-- Something happens on one line. -/
def onLine (now : Instant) (line : δ) (event : Event) (b : Switchboard δ α) : Switchboard δ α :=
  let traffic := (b.lines line).step now event
  { b with lines := setLine line traffic b.lines }

/-- A task begins. -/
def launch (now : Instant) (id : TaskId) (b : Switchboard δ α) : Request δ α → Switchboard δ α
  | .call line plan =>
    { b.onLine now line (.call id plan.limit) with
      plans := b.plans.set id (some (line, plan))
      bound := max b.bound (id + 1) }
  | .ask question =>
    let (lines, value) := question now b.lines
    { b with lines, answers := b.answers.set id (some value), bound := max b.bound (id + 1) }

/-- The line and the plan of a call in flight, and when it ends. -/
def pending? (b : Switchboard δ α) (id : TaskId) : Option (δ × Plan × Instant) :=
  match b.plans id with
  | some (line, plan) =>
    match (b.lines line).stages id with
    | .inFlight flight => some (line, plan, flight.began + plan.length)
    | _ => none
  | none => none

/-- A call ends, if it is due. -/
def actOn? (now : Instant) (b : Switchboard δ α) (id : TaskId) : Option (Switchboard δ α) :=
  match b.pending? id with
  | some (line, plan, due) =>
    if due ≤ now then some (b.onLine now line (plan.ending id)) else none
  | none => none

/-- The first call in turn that is due ends. -/
def act? (first : Option TaskId) (now : Instant) (b : Switchboard δ α) :
    Option (Switchboard δ α) :=
  (Simulation.turns first b.bound).findSome? (b.actOn? now)

/-- When the calls in flight end. -/
def dues (b : Switchboard δ α) : List Instant :=
  (List.range b.bound).filterMap fun id => (b.pending? id).map fun (_, _, due) => due

/-- How a task ended. -/
def reply? (b : Switchboard δ α) (id : TaskId) : Option (Reply α) :=
  match b.plans id with
  | some (line, _) =>
    match (b.lines line).stages id with
    | .finished result => some (.call result)
    | _ => none
  | none => (b.answers id).map .answer

/-- A call is dropped. -/
def abandon (now : Instant) (id : TaskId) (b : Switchboard δ α) : Switchboard δ α :=
  match b.plans id with
  | some (line, _) => b.onLine now line (.drop id)
  | none => b

/-- The lines without the alerts that were shown. -/
def quiet (lines : δ → Traffic) : δ → Traffic :=
  fun line =>
    let ⟨breaker, stages⟩ := lines line
    ⟨{ breaker with alerts := [] }, stages⟩

/-- Planned calls and questions along the clock; the report shows the breakers, with the alerts since
the last report. -/
def simulation (δ α : Type) [DecidableEq δ] :
    Simulation (Switchboard δ α) (Request δ α) (Reply α) (δ → Breaker) where
  launch now id request b := b.launch now id request
  act? first now b := b.act? first now
  dues b := b.dues
  reply? b id := b.reply? id
  abandon now id b := b.abandon now id
  report _ b := ({ b with lines := quiet b.lines }, fun line => (b.lines line).breaker)

/-! ### Questions about one breaker -/

/-- The phase of the only line. -/
def askPhase (now : Instant) (lines : Unit → Traffic) : (Unit → Traffic) × Phase :=
  let traffic := (lines ()).step now .observe
  (setLine () traffic lines, traffic.breaker.circuit.phase)

end Switchboard

end ProfileGuard.Breaker
