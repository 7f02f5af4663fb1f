import ProfileGuard.Saturating

/-!
# Outcome counts

What a breaker counts in one generation of requests.  Every count stops at the largest 32-bit number.

* **`Breaker.Counts`** — the counts.
* **`Breaker.Counts.failureRatio`** — the share of admitted requests that failed.
-/

namespace ProfileGuard.Breaker

/-- What happened to the requests of one generation. -/
structure Counts where
  /-- Requests admitted. -/
  requests : UInt32 := 0
  /-- Requests that succeeded. -/
  successes : UInt32 := 0
  /-- Requests that failed. -/
  failures : UInt32 := 0
  /-- Successes since the last failure. -/
  successRun : UInt32 := 0
  /-- Failures since the last success. -/
  failureRun : UInt32 := 0
  deriving DecidableEq

namespace Counts

/-- The counts after one more request was admitted. -/
def admitted (c : Counts) : Counts := { c with requests := raise c.requests }

/-- The counts after one more request succeeded. -/
def succeeded (c : Counts) : Counts :=
  { c with successes := raise c.successes, successRun := raise c.successRun, failureRun := 0 }

/-- The counts after one more request failed. -/
def failed (c : Counts) : Counts :=
  { c with failures := raise c.failures, failureRun := raise c.failureRun, successRun := 0 }

/-- The counts after the outcome of one more request. -/
def settled (success : Bool) (c : Counts) : Counts := if success then c.succeeded else c.failed

/-- The share of admitted requests that failed; zero when none was admitted. -/
def failureRatio (c : Counts) : Float :=
  if c.requests = 0 then 0 else c.failures.toFloat / c.requests.toFloat

end Counts

end ProfileGuard.Breaker
