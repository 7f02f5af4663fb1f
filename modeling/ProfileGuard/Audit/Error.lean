import ProfileGuard.Buffer.Settings

/-!
# Errors of auditing

* **`Audit.Error`** — why an event could not be built, read, sent or buffered.
-/

namespace ProfileGuard.Audit

/-- Why an event could not be built, read, sent or buffered. -/
inductive Error where
  /-- A field that an event must have is blank. -/
  | missingField (name : String)
  /-- A document holds no event. -/
  | malformed
  /-- The event could not be buffered, or the buffer not be flushed. -/
  | buffer (error : Buffer.Error)
  /-- The producer takes no more events. -/
  | producerClosed
  /-- The message broker failed. -/
  | broker (failure : Failure)
  deriving DecidableEq

namespace Error

/-- The wording; a malformed document is not quoted. -/
def message? : Error → Option String
  | missingField name => some ("Missing required field: " ++ name)
  | malformed => none
  | buffer error => some error.message
  | producerClosed => some "Audit producer is closed"
  | broker failure => some failure.message

/-- The name of the cause; for the buffer and the broker that of their own. -/
def kind : Error → String
  | missingField _ => "MissingField"
  | malformed => "Serialization"
  | buffer error => "Buffer." ++ error.kind
  | producerClosed => "ProducerClosed"
  | broker failure => "Platform." ++ failure.kind

/-- Whether trying again may help; a circuit that is open will be tried again by itself. -/
def isRetryable : Error → Bool
  | broker (.circuitOpen _) => true
  | broker failure => failure.isRetryable
  | buffer (.partialFlush ..) | buffer (.cancelled ..) => true
  | _ => false

end Error

end ProfileGuard.Audit
