/-!
# Failures of dependencies

What a store, a cache or a broker reports when it cannot do what was asked.  Some failures are
transient, so that asking again may help.

* **`Failure`** — the causes.
* **`Failure.message`** / **`Failure.kind`** — the wording, and the name of the cause.
* **`Failure.isRetryable`** — whether the cause is transient.
-/

namespace ProfileGuard

/-- Why a call into a dependency failed. -/
inductive Failure where
  | malformed (detail : String)
  | circuitOpen (service : String)
  | unavailable (reason : String)
  | transport (reason : String)
  | storage (reason : String)
  | notFound (what : String)
  | invalidInput (reason : String)
  | timeout (what : String)
  | internal (reason : String)
  deriving DecidableEq

namespace Failure

/-- The wording of a failure. -/
def message : Failure → String
  | malformed detail => "Serialization error: " ++ detail
  | circuitOpen service => "Circuit breaker open for " ++ service
  | unavailable reason => "Service unavailable: " ++ reason
  | transport reason => "Transport error: " ++ reason
  | storage reason => "Storage error: " ++ reason
  | notFound what => "Not found: " ++ what
  | invalidInput reason => "Invalid input: " ++ reason
  | timeout what => "Operation timed out: " ++ what
  | internal reason => "Internal error: " ++ reason

/-- The name of the cause, by which failures are told apart. -/
def kind : Failure → String
  | malformed _ => "Serialization"
  | circuitOpen _ => "CircuitOpen"
  | unavailable _ => "Unavailable"
  | transport _ => "Transport"
  | storage _ => "Storage"
  | notFound _ => "NotFound"
  | invalidInput _ => "InvalidInput"
  | timeout _ => "Timeout"
  | internal _ => "Internal"

/-- Whether asking again may help. -/
def isRetryable : Failure → Bool
  | unavailable _ | transport _ | timeout _ => true
  | _ => false

/-- The failure to read a document that ends after its opening brace. -/
def truncatedDocument : Failure :=
  malformed "EOF while parsing an object at line 1 column 1"

end Failure

end ProfileGuard
