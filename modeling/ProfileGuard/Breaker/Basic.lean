import ProfileGuard.Breaker.Circuit

/-!
# Circuit breakers

A breaker guards one dependency: it holds a circuit and tells a listener when the circuit opens and
when it closes again.

* **`Breaker`** — settings, circuit, and the alerts sent out.
* **`Breaker.acquire`** / **`Breaker.record`** — the two ends of a guarded call.
* **`Breaker.breaksOff`** — whether the end of a guarded call breaks off before the caller has a result.
* **`Breaker.poll`** — a look at the phase, which applies the time that has passed.
* **`Breaker.CallError`** — how a guarded call can fail; `CallError.flatten` folds the breaker's own
  refusals into failures of the dependency.
-/

namespace ProfileGuard

namespace Breaker

/-- What a listener is told, with the name of the breaker. -/
inductive Alert where
  | opened (service : String)
  | closed (service : String)
  deriving DecidableEq

/-- Why a guarded call failed. -/
inductive CallError (ε : Type) where
  /-- The circuit is open; the dependency was not called. -/
  | opened (service : String)
  /-- All trial requests are taken; the dependency was not called. -/
  | tooManyRequests (service : String)
  /-- The call did not end before its deadline. -/
  | timeout (service : String) (after : Duration)
  /-- The dependency itself failed. -/
  | service (error : ε)
  deriving DecidableEq

namespace CallError

variable {ε : Type}

/-- The wording, given that of the dependency's own failures. -/
def message (wording : ε → String) : CallError ε → String
  | opened name => "Circuit breaker open for " ++ name
  | tooManyRequests name => "Too many requests to half-open circuit " ++ name
  | timeout name after => "Call to " ++ name ++ " timed out after " ++ Duration.text after
  | service error => wording error

/-- Whether the breaker refused the call without making it. -/
def isRejection : CallError ε → Bool
  | opened _ | tooManyRequests _ => true
  | _ => false

/-- The dependency's own failure, if that is what went wrong. -/
def service? : CallError ε → Option ε
  | service error => some error
  | _ => none

/-- The failure of a guarded call as a failure of the dependency. -/
def flatten : CallError Failure → Failure
  | opened name => .circuitOpen name
  | tooManyRequests name => .unavailable (name ++ " is recovering, too many requests")
  | timeout name after => .timeout (name ++ " after " ++ Duration.text after)
  | service error => error

end CallError

/-- The refusal of a call to the named dependency. -/
def Refusal.toCallError {ε : Type} (name : String) : Refusal → CallError ε
  | opened => .opened name
  | tooManyRequests => .tooManyRequests name

end Breaker

open Breaker

/-- A breaker that guards one dependency. -/
structure Breaker where
  settings : Breaker.Settings
  circuit : Circuit
  /-- Whether someone wants to know when the circuit opens. -/
  onOpen : Bool := false
  /-- Whether someone wants to know when the circuit closes. -/
  onClose : Bool := false
  /-- The alerts sent out so far, oldest first. -/
  alerts : List Alert := []

namespace Breaker

/-- A fresh breaker. -/
def start (settings : Settings) (now : Instant) : Breaker :=
  { settings, circuit := Circuit.start settings now }

/-- The alert for entering a phase, if someone listens. -/
def alertFor (b : Breaker) : Option Phase → List Alert
  | some .opened => if b.onOpen then [.opened b.settings.name] else []
  | some .closed => if b.onClose then [.closed b.settings.name] else []
  | _ => []

/-- The breaker after a change of its circuit. -/
def apply (b : Breaker) (change : Change) : Breaker :=
  { b with circuit := change.circuit, alerts := b.alerts ++ b.alertFor change.entered }

/-- The beginning of a guarded call: the generation it belongs to, or a refusal. -/
def acquire (b : Breaker) (now : Instant) : Breaker × Except Refusal UInt64 :=
  let (change, answer) := b.circuit.request b.settings now
  (b.apply change, answer)

/-- The end of a guarded call that was admitted in a generation. -/
def record (b : Breaker) (now : Instant) (generation : UInt64) (success : Bool) : Breaker :=
  b.apply (b.circuit.settle b.settings now generation success)

/-- Whether the end of a guarded call breaks off while the breaker is told of it. -/
def breaksOff (b : Breaker) (now : Instant) (generation : UInt64) (success : Bool) : Bool :=
  (b.circuit.settle b.settings now generation success).brokeOff

/-- A look at the breaker. -/
def poll (b : Breaker) (now : Instant) : Breaker := b.apply (b.circuit.refresh b.settings now)

/-- The time since the circuit entered its phase. -/
def sinceTransition (b : Breaker) (now : Instant) : Duration := now - b.circuit.since

end Breaker

end ProfileGuard
