/-!
# Decimal numbers in text

Versions and counts are written in decimal without leading zeros.  They are read more freely: an
optional `+`, then at least one digit, leading zeros allowed, and nothing else.

* **`Text.Decimal.chars`** — the decimal digits of a number.
* **`Text.Decimal.read?`** — the number written by such a text, if it is below a bound.
* **`Text.Decimal.read?_chars`** — a written number reads back.
-/

namespace ProfileGuard.Text.Decimal

/-- The decimal digits of `n`, without leading zeros. -/
def chars (n : Nat) : List Char := Nat.toDigits 10 n

/-- The decimal text of `n`. -/
def text (n : Nat) : String := String.ofList (chars n)

/-- The value of a string of digits. -/
def value (cs : List Char) : Nat := Nat.ofDigitChars 10 cs 0

/-- The number written by a non-empty string of ASCII digits. -/
def digits? (cs : List Char) : Option Nat :=
  if cs ≠ [] ∧ cs.all Char.isDigit then some (value cs) else none

/-- The digits after an optional plus sign. -/
def unsigned : List Char → List Char
  | '+' :: cs => cs
  | cs => cs

/-- The number below `bound` written by an optional `+` and digits. -/
def read? (bound : Nat) (cs : List Char) : Option Nat :=
  (digits? (unsigned cs)).filter (· < bound)

/-- A 32-bit number in decimal. -/
def readWord? (cs : List Char) : Option UInt32 := (read? UInt32.size cs).map UInt32.ofNat

/-- The digits of `n` padded with zeros on the left to at least `width`. -/
def padded (width n : Nat) : List Char :=
  List.replicate (width - (chars n).length) '0' ++ chars n

theorem chars_ne_nil (n : Nat) : chars n ≠ [] := by
  intro h
  have := Nat.length_toDigits_pos (b := 10) (n := n)
  rw [chars] at h
  rw [h] at this
  exact absurd this (by decide)

theorem all_isDigit_chars (n : Nat) : (chars n).all Char.isDigit = true := by
  rw [List.all_eq_true]
  intro c hc
  exact Nat.isDigit_of_mem_toDigits (by decide) (by decide) hc

theorem digits?_chars (n : Nat) : digits? (chars n) = some n := by
  rw [digits?, if_pos ⟨chars_ne_nil n, all_isDigit_chars n⟩, value, chars,
    Nat.ofDigitChars_toDigits (by decide) (by decide)]

/-- The digits of a number do not begin with a sign. -/
theorem unsigned_chars (n : Nat) : unsigned (chars n) = chars n := by
  have h := all_isDigit_chars n
  unfold unsigned
  split
  next cs heq => rw [heq] at h; exact absurd h (by simp [Char.isDigit])
  next => rfl

/-- A written number below the bound reads back. -/
theorem read?_chars {bound n : Nat} (h : n < bound) : read? bound (chars n) = some n := by
  simp [read?, unsigned_chars, digits?_chars, h]

end ProfileGuard.Text.Decimal
