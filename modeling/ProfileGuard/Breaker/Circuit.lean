import ProfileGuard.Breaker.Counts
import ProfileGuard.Breaker.Settings

/-!
# The circuit

The phases of a circuit and what moves it from one to another.  Nothing happens by itself: whoever
touches the circuit next applies the time that has passed.  Each phase change, and each window that
runs out while the circuit is closed, begins a new generation with fresh counts.

Entering a phase works out when the phase ends by itself.  Where the clock cannot tell that instant the
entry breaks off half-way: the new generation has begun, with the phase and fresh counts, but under the
expiry of the old one, and whoever touched the circuit learns nothing.

* **`Breaker.Circuit`** — the phase, the generation and its counts.
* **`Breaker.Circuit.enter`** — another phase is entered, or the entry breaks off.
* **`Breaker.Circuit.refresh`** — the passing of time.
* **`Breaker.Circuit.request`** — a request asks to be let through.
* **`Breaker.Circuit.settle`** — the outcome of an admitted request; one of an earlier generation is
  not counted.
-/

namespace ProfileGuard.Breaker

/-- What a circuit does with requests. -/
inductive Phase where
  /-- Every request is let through and outcomes are counted. -/
  | closed
  /-- Every request is refused. -/
  | opened
  /-- A limited number of trial requests is let through. -/
  | halfOpen
  deriving DecidableEq

/-- The name of a phase. -/
def Phase.text : Phase → String
  | closed => "closed"
  | opened => "open"
  | halfOpen => "half-open"

/-- Why a request was refused. -/
inductive Refusal where
  /-- The circuit is open. -/
  | opened
  /-- All trial requests of a half-open circuit are taken. -/
  | tooManyRequests
  deriving DecidableEq

/-- A circuit at some instant. -/
structure Circuit where
  phase : Phase
  /-- The number of the present generation. -/
  generation : UInt64
  counts : Counts
  /-- When the present generation ends by itself. -/
  expiry : Option Instant
  /-- When the present phase was entered. -/
  since : Instant

/-- A circuit after something touched it. -/
structure Change where
  circuit : Circuit
  /-- The phase that was entered, if the phase changed and whoever touched the circuit learns of it. -/
  entered : Option Phase := none
  /-- Whether the touch broke off while another phase was entered. -/
  brokeOff : Bool := false

namespace Circuit

variable (s : Settings) (now : Instant)

/-- When a window that begins now ends, if it ever does.  The clock is taken to tell that instant: a
circuit is made only where the first window has one, and a window follows another that has run out, so the
clock would have to be past the middle of its range. -/
def windowEnd : Option Instant := if s.window = 0 then none else some (now + s.window)

/-- When a phase that is entered now ends by itself, if it ever does; nothing if the clock cannot tell. -/
def expiryIn? : Phase → Option (Option Instant)
  | .closed => if s.window = 0 then some none else (Instant.after? now s.window).map some
  | .opened => (Instant.after? now s.openFor).map some
  | .halfOpen => some none

/-- The circuit at the beginning of a new generation. -/
def renew (expiry : Option Instant) (c : Circuit) : Circuit :=
  { c with generation := c.generation + 1, counts := {}, expiry }

/-- A fresh closed circuit, in its first generation. -/
def start : Circuit := renew (windowEnd s now) ⟨.closed, 0, {}, none, now⟩

/-- The circuit on entering another phase. -/
def enter (phase : Phase) (c : Circuit) : Change :=
  let c := { c with phase, since := now }
  match expiryIn? s now phase with
  | some expiry => { circuit := c.renew expiry, entered := some phase }
  | none => { circuit := c.renew c.expiry, brokeOff := true }

/-- Whether the present generation has ended by itself. -/
def isExpired (c : Circuit) : Bool :=
  match c.expiry with
  | some expiry => expiry ≤ now
  | none => false

/-- The circuit after the time up to now has passed: a closed one begins a new window, an open one
becomes half-open. -/
def refresh (c : Circuit) : Change :=
  if c.isExpired now then
    match c.phase with
    | .closed => { circuit := c.renew (windowEnd s now) }
    | .opened => c.enter s now .halfOpen
    | .halfOpen => { circuit := c }
  else { circuit := c }

/-- Whether a circuit lets the next request through as it is. -/
def refusal? (c : Circuit) : Option Refusal :=
  match c.phase with
  | .closed => none
  | .opened => some .opened
  | .halfOpen => if c.counts.requests ≥ s.trialLimit then some .tooManyRequests else none

/-- A request asks to be let through; it is given the generation it belongs to.  A refusal reports no
phase change. -/
def request (c : Circuit) : Change × Except Refusal UInt64 :=
  let change := c.refresh s now
  match change.circuit.refusal? s with
  | some refusal => ({ circuit := change.circuit }, .error refusal)
  | none =>
    let circuit := change.circuit
    ({ circuit := { circuit with counts := circuit.counts.admitted }, entered := change.entered },
      .ok circuit.generation)

/-- Whether the counts trip a closed circuit. -/
def isTripped (counts : Counts) : Bool :=
  counts.requests ≥ s.minRequests && counts.failureRatio ≥ s.tripRatio.value

/-- The circuit after the outcome of a request of the present generation. -/
def count (success : Bool) (c : Circuit) : Change :=
  match c.phase with
  | .opened => { circuit := c }
  | .closed =>
    let c := { c with counts := c.counts.settled success }
    if isTripped s c.counts then c.enter s now .opened else { circuit := c }
  | .halfOpen =>
    if success then
      let c := { c with counts := c.counts.succeeded }
      if c.counts.successRun ≥ s.closeAfter then c.enter s now .closed else { circuit := c }
    else c.enter s now .opened

/-- The outcome of a request that was admitted in a generation.  If it breaks off, nobody learns of what
the time that has passed did either. -/
def settle (generation : UInt64) (success : Bool) (c : Circuit) : Change :=
  let change := c.refresh s now
  if generation = change.circuit.generation then
    let counted := change.circuit.count s now success
    if counted.brokeOff then counted
    else { counted with entered := counted.entered.or change.entered }
  else change

end Circuit

end ProfileGuard.Breaker
