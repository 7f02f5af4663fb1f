import ProfileGuard.Text.Decimal

/-!
# Instants and durations

Time is counted in nanoseconds.  An instant is the time since the clock started.  The clock counts whole
seconds in 63 bits, so that some sums of an instant and a duration are no instants.

* **`Instant`** / **`Duration`** — points in time and the distances between them.
* **`Instant.after?`** — the instant that lies a duration after another, if the clock can tell it.
* **`Duration.text`** — a duration in the largest unit that leaves a whole part.
-/

namespace ProfileGuard

/-- A point in time, in nanoseconds since the clock started. -/
abbrev Instant := Nat

/-- A length of time in nanoseconds. -/
abbrev Duration := Nat

namespace Duration

/-- A duration of whole milliseconds. -/
def ofMillis (ms : Nat) : Duration := ms * 1000000

/-- A duration of whole seconds. -/
def ofSeconds (s : Nat) : Duration := s * 1000000000

/-- The longest duration: a duration counts whole seconds in 64 bits. -/
def longest : Duration := ofSeconds (Nat.pow 2 64) - 1

/-- The whole milliseconds in a duration. -/
def millis (d : Duration) : Nat := d / 1000000

/-- The digits of `fraction` out of `width` digits, without trailing zeros and after a point;
nothing for zero. -/
def fractionChars (width fraction : Nat) : List Char :=
  if fraction = 0 then []
  else '.' :: ((Text.Decimal.padded width fraction).reverse.dropWhile (· == '0')).reverse

/-- A duration as a number of units of `10 ^ places` nanoseconds. -/
def inUnits (places : Nat) (unit : String) (d : Duration) : String :=
  String.ofList (Text.Decimal.chars (d / Nat.pow 10 places) ++
    fractionChars places (d % Nat.pow 10 places) ++ unit.toList)

/-- A duration in the largest unit, from seconds down to nanoseconds, that leaves a whole part. -/
def text (d : Duration) : String :=
  if 1000000000 ≤ d then inUnits 9 "s" d
  else if 1000000 ≤ d then inUnits 6 "ms" d
  else if 1000 ≤ d then inUnits 3 "µs" d
  else inUnits 0 "ns" d

end Duration

namespace Instant

/-- The last instant that the clock can tell. -/
def last : Instant := Duration.ofSeconds (Nat.pow 2 63) - 1

/-- The instant that lies a duration after another one, unless the clock cannot tell it. -/
def after? (now : Instant) (d : Duration) : Option Instant :=
  if now + d ≤ last then some (now + d) else none

variable {now due : Instant} {d : Duration}

theorem after?_eq_some_iff : now.after? d = some due ↔ now + d = due ∧ due ≤ last := by
  rw [after?, Option.ite_none_right_eq_some, Option.some_inj]
  exact ⟨fun h => ⟨h.2, h.2 ▸ h.1⟩, fun h => ⟨h.1 ▸ h.2, h.1⟩⟩

theorem after?_eq_none_iff : now.after? d = none ↔ last < now + d := by
  simp [after?]

end Instant

end ProfileGuard
