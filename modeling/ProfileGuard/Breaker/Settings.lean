import ProfileGuard.Failure
import ProfileGuard.Time.Duration

/-!
# Settings of a circuit breaker

* **`Breaker.Ratio`** — the share of failures from which a breaker trips.
* **`Breaker.Settings`** — when a breaker trips, how long it stays open and how it recovers.
* **`Breaker.Settings.validate`** — the first fault of settings that could never close the circuit
  again, or never trip it.
-/

namespace ProfileGuard.Breaker

/-- A share given by the 64 bits of a floating-point number.  All bits are kept, also those that tell
apart patterns that are no number. -/
structure Ratio where
  bits : UInt64
  deriving DecidableEq

/-- The share as a number. -/
def Ratio.value (r : Ratio) : Float := Float.ofBits r.bits

/-- One half. -/
def Ratio.half : Ratio := ⟨0x3fe0000000000000⟩

/-- When a breaker trips and how it recovers. -/
structure Settings where
  /-- The guarded dependency. -/
  name : String := "default"
  /-- How many requests a half-open circuit admits. -/
  trialLimit : UInt32 := 3
  /-- How many successes in a row close a half-open circuit. -/
  closeAfter : UInt32 := 3
  /-- How long the counts of a closed circuit are kept; zero keeps them for ever. -/
  window : Duration := Duration.ofSeconds 60
  /-- How long an open circuit refuses every request. -/
  openFor : Duration := Duration.ofSeconds 30
  /-- The share of failures from which the circuit trips. -/
  tripRatio : Ratio := Ratio.half
  /-- How many requests must have been admitted before the share of failures matters. -/
  minRequests : UInt32 := 5

/-- Checks that a half-open circuit can close again and that the ratio lies above 0 and up to 1. -/
def Settings.validate (s : Settings) : Except Failure Unit :=
  if s.name = "" then .error (.invalidInput "circuit breaker name is empty")
  else if s.trialLimit = 0 then
    .error (.invalidInput "max_half_open_requests must be at least 1")
  else if s.closeAfter = 0 ∨ s.closeAfter > s.trialLimit then
    .error (.invalidInput "success_threshold must be between 1 and max_half_open_requests")
  else if s.tripRatio.value > 0 ∧ s.tripRatio.value ≤ 1 then .ok ()
  else .error (.invalidInput "failure_ratio must be in (0, 1]")

end ProfileGuard.Breaker
