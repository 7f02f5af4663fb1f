/-!
# The shortest decimal of a double

A finite double stands for an interval of reals, those that round to it.  Among the decimals in that
interval the shortest are taken, and of these the one nearest to the double itself.

* **`Decimal.shortest`** — the digits and the decimal exponent of a positive double.
* **`Decimal.Span`** — the double and its interval, scaled to integers.
-/

namespace ProfileGuard.Decimal

/-- Three numbers over a common denominator: the ends of an interval and a value inside it. -/
structure Span where
  low : Nat
  value : Nat
  high : Nat
  /-- The common denominator. -/
  unit : Nat
  /-- Whether the ends belong to the interval. -/
  closed : Bool

/-- The interval of reals that round to the positive double with these bits. -/
def Span.ofBits (bits : UInt64) : Span :=
  let exponent := (bits.toNat >>> 52) % 2048
  let stored := bits.toNat % (1 <<< 52)
  let m := if exponent = 0 then stored else stored + (1 <<< 52)
  let q := if exponent = 0 then 1 else exponent
  -- the double is m * 2 ^ (q - 1075); quarters keep the ends of the interval integral
  let gap := if stored = 0 ∧ 1 < exponent then 1 else 2
  let scale := if 1077 ≤ q then 1 <<< (q - 1077) else 1
  let unit := if 1077 ≤ q then 1 else 1 <<< (1077 - q)
  { low := (4 * m - gap) * scale, value := 4 * m * scale, high := (4 * m + 2) * scale, unit,
    closed := m % 2 = 0 }

/-- Whether `digits * step` lies in the interval, where a step is a fraction of the unit. -/
def Span.holds (s : Span) (n : Nat) : Bool :=
  if s.closed then s.low ≤ n && n ≤ s.high else s.low < n && n < s.high

/-- The least `e` below the bound with `value < 10 ^ e`, counted up from `e`. -/
def magnitudeFrom (value unit : Nat) : (fuel e : Nat) → Nat
  | 0, e => e
  | fuel + 1, e => if value < Nat.pow 10 e * unit then e else magnitudeFrom value unit fuel (e + 1)

/-- The interval multiplied by a power of ten. -/
def Span.times (s : Span) (k : Nat) : Span :=
  { s with low := s.low * k, value := s.value * k, high := s.high * k }

/-- The best decimal whose last digit has weight `weight`, if one lies in the interval. -/
def Span.nearest? (s : Span) (weight : Nat) : Option Nat :=
  let step := weight * s.unit
  let below := s.value / step
  let above := below + 1
  match s.holds (below * step), s.holds (above * step) with
  | false, false => none
  | true, false => some below
  | false, true => some above
  | true, true =>
    let left := s.value - below * step
    let right := above * step - s.value
    if left < right ∨ (left = right ∧ below % 2 = 0) then some below else some above

/-- The best decimal with the fewest digits, trying `count` more weights from `10 ^ e` downward. -/
def Span.search (s : Span) : (count e : Nat) → Nat × Nat
  | 0, e => (s.value / (Nat.pow 10 e * s.unit), e)
  | count + 1, e =>
    match s.nearest? (Nat.pow 10 e) with
    | some digits => (digits, e)
    | none => s.search count (e - 1)

/-- The digits `d` and the exponent `e` of the shortest decimal `d * 10 ^ e` of a positive double. -/
def shortest (bits : UInt64) : Nat × Int :=
  -- multiplied by 10 ^ 400 every double has at least 17 digits before the point
  let s := (Span.ofBits bits).times (Nat.pow 10 400)
  let size := magnitudeFrom s.value s.unit 800 0
  let (digits, e) := s.search 19 size
  (digits, (e : Int) - 400)

end ProfileGuard.Decimal
