import Mathlib.Data.List.Basic
import ProfileGuard.Proofs.Text.Trimming
import ProfileGuard.Text.Decimal

/-!
# Decimal digits

* **`Text.Decimal.trimChars_chars`** / **`Text.Decimal.text_injective`** / **`Text.Decimal.readWord?_chars`**
  — a number in decimal has no blanks, is no other number in decimal, and is read as a word if it fits.
* **`Text.Decimal.length_padded`** — a number that fits the width fills it exactly.
* **`Text.Decimal.all_isDigit_padded`** / **`Text.Decimal.value_padded`** — nothing but digits, and they
  have the number's value.
-/

namespace ProfileGuard.Text

theorem isBlank_of_isDigit {c : Char} (h : c.isDigit = true) : isBlank c = false := by
  obtain ⟨hlow, hhigh⟩ : 48 ≤ c.toNat ∧ c.toNat ≤ 57 := Char.isDigit_iff_toNat.1 h
  simp [isBlank]
  omega

namespace Decimal

/-! ### Without padding -/

theorem trimChars_chars (n : Nat) : trimChars (chars n) = chars n := by
  refine trimChars_of_forall fun c hc => isBlank_of_isDigit ?_
  exact List.all_eq_true.mp (all_isDigit_chars n) c hc

theorem text_injective : Function.Injective text := by
  intro m n h
  have hchars : chars m = chars n := String.ofList_injective h
  have hdigits := digits?_chars m
  rw [hchars, digits?_chars n] at hdigits
  exact (Option.some.inj hdigits).symm

/-- A number in decimal is read as a word if it fits 32 bits. -/
theorem readWord?_chars (n : Nat) :
    readWord? (chars n) = if n < UInt32.size then some (UInt32.ofNat n) else none := by
  rw [readWord?, read?, unsigned_chars, digits?_chars]
  by_cases h : n < UInt32.size
  · simp [h]
  · simp [h, Nat.le_of_not_lt h]

/-! ### With padding -/

theorem length_padded {width n : Nat} (hwidth : 0 < width) (h : n < Nat.pow 10 width) :
    (padded width n).length = width := by
  have hfits : (chars n).length ≤ width := (Nat.length_toDigits_le_iff (by decide) hwidth).2 h
  rw [padded, List.length_append, List.length_replicate]
  omega

theorem padded_ne_nil (width n : Nat) : padded width n ≠ [] := by
  intro h
  exact chars_ne_nil n (List.append_eq_nil_iff.1 h).2

theorem all_isDigit_padded (width n : Nat) : (padded width n).all Char.isDigit = true := by
  have hzeros : (List.replicate (width - (chars n).length) '0').all Char.isDigit = true := by
    rw [List.all_eq_true]
    intro c hc
    rw [List.eq_of_mem_replicate hc]
    rfl
  rw [padded, List.all_append, hzeros, all_isDigit_chars]
  rfl

theorem value_padded (width n : Nat) : value (padded width n) = n := by
  have hvalue : Nat.ofDigitChars 10 (chars n) 0 = n :=
    Nat.ofDigitChars_toDigits (by decide) (by decide)
  rw [value, padded, Nat.ofDigitChars_append, Nat.ofDigitChars_replicate_zero, Nat.mul_zero, hvalue]

end Decimal

end ProfileGuard.Text
