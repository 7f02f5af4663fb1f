import ProfileGuard.Failure
import ProfileGuard.Time.Duration

/-!
# Settings and errors of the event buffer

* **`Buffer.Settings`** — how much a buffer holds and how long it waits.
* **`Buffer.Error`** — why an event was not accepted, or a flush not complete.
-/

namespace ProfileGuard.Buffer

/-- How much a buffer holds and how long it waits. -/
structure Settings where
  /-- The number of events held in memory. -/
  capacity : Nat := 10000
  /-- The time in which overflow storage must take a full buffer. -/
  persistLimit : Duration := Duration.ofSeconds 5
  /-- The time for a whole flush. -/
  flushLimit : Duration := Duration.ofSeconds 5
  /-- The beginning of all metric names. -/
  metricsFamily : String := "event"

/-- Checks that a buffer can hold something. -/
def Settings.validate (s : Settings) : Except Failure Unit :=
  if s.capacity = 0 then
    .error (.invalidInput "event buffer capacity must be at least 1")
  else .ok ()

/-- Why an event was not accepted, or a flush not complete. -/
inductive Error where
  /-- The buffer is full and overflow storage did not take its content. -/
  | full (capacity : Nat)
  /-- There is nothing to deliver events with. -/
  | noTransport
  /-- Some deliveries failed. -/
  | partialFlush (flushed failed : Nat) (lastError : Failure)
  /-- The deadline passed before every event was tried. -/
  | cancelled (flushed : Nat) (after : Duration)
  deriving DecidableEq

namespace Error

/-- The wording. -/
def message : Error → String
  | full capacity => s!"Event buffer is full (capacity {capacity})"
  | noTransport => "No transport configured for flushing"
  | partialFlush flushed failed lastError =>
    s!"Flushed {flushed} events, {failed} failed, last error: " ++ lastError.message
  | cancelled flushed after =>
    "Flush cancelled after " ++ Duration.text after ++ s!" with {flushed} events delivered"

/-- The name of the cause. -/
def kind : Error → String
  | full _ => "Full"
  | noTransport => "NoTransport"
  | partialFlush .. => "PartialFlush"
  | cancelled .. => "Cancelled"

/-- How many events the flush delivered. -/
def flushed : Error → Nat
  | partialFlush n _ _ | cancelled n _ => n
  | full _ | noTransport => 0

end Error

end ProfileGuard.Buffer
