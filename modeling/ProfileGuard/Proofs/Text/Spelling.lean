import Mathlib.Data.List.Induction
import ProfileGuard.Text.Decimal

/-!
# The spellings of a number

A number is written in one way, but it is read from many texts: zeros may lead its digits, and a plus sign
may stand before them.  Here is what these texts are, said without the reader, and that no other text is read.

* **`Text.Decimal.Spells`** — digits that stand for a number.
* **`Text.Decimal.IsNumeral`** — such digits, alone or after a plus sign.
* **`Text.Decimal.digits?_eq_some_iff`** / **`Text.Decimal.readWord?_eq_some_iff`** — exactly these texts are
  read, the second kind as far as the number fits 32 bits.
* **`Text.Decimal.IsNumeral.eq`** — no text spells two numbers.
-/

namespace ProfileGuard.Text.Decimal

/-- Digits that stand for a number, the most significant one first; zeros may lead. -/
inductive Spells : List Char → Nat → Prop where
  | one {digit : Nat} (h : digit < 10) : Spells [Nat.digitChar digit] digit
  | more {cs : List Char} {n digit : Nat} (before : Spells cs n) (h : digit < 10) :
      Spells (cs ++ [Nat.digitChar digit]) (n * 10 + digit)

/-- The digits of a number, with a plus sign before them or without. -/
inductive IsNumeral : List Char → Nat → Prop where
  | plain {cs : List Char} {n : Nat} (h : Spells cs n) : IsNumeral cs n
  | signed {cs : List Char} {n : Nat} (h : Spells cs n) : IsNumeral ('+' :: cs) n

variable {cs : List Char} {n : Nat}

/-! ### Digits -/

theorem exists_digitChar {c : Char} (h : c.isDigit = true) : ∃ digit < 10, c = Nat.digitChar digit := by
  obtain ⟨hlow, hhigh⟩ : 48 ≤ c.toNat ∧ c.toNat ≤ 57 := Char.isDigit_iff_toNat.1 h
  refine ⟨c.toNat - 48, by omega, ?_⟩
  apply Char.toNat_inj.mp
  rw [Nat.toNat_digitChar_of_lt_ten (by omega)]
  omega

/-- A further digit makes ten times the number, and its own value more. -/
theorem value_concat (cs : List Char) {digit : Nat} (h : digit < 10) :
    value (cs ++ [Nat.digitChar digit]) = value cs * 10 + digit := by
  have hdigit : (Nat.digitChar digit).toNat - '0'.toNat = digit := by
    rw [Nat.toNat_digitChar_of_lt_ten h]
    exact Nat.add_sub_cancel_left 48 digit
  rw [value, Nat.ofDigitChars_append, Nat.ofDigitChars_cons, hdigit, Nat.mul_comm]
  rfl

namespace Spells

theorem all_isDigit (h : Spells cs n) : cs.all Char.isDigit = true := by
  induction h with
  | one h => simp [Nat.isDigit_digitChar, h]
  | more before h ih => simp [Nat.isDigit_digitChar, h, ih]

theorem ne_nil (h : Spells cs n) : cs ≠ [] := by
  cases h with
  | one h => simp
  | more before h => simp

theorem value_eq (h : Spells cs n) : value cs = n := by
  induction h with
  | one h =>
    have hempty : value [] = 0 := rfl
    have hone := value_concat [] h
    rw [hempty, Nat.zero_mul, Nat.zero_add] at hone
    exact hone
  | more before h ih => rw [value_concat _ h, ih]

/-- Digits carry no sign. -/
theorem unsigned_eq (h : Spells cs n) : unsigned cs = cs := by
  have hdigits := h.all_isDigit
  unfold unsigned
  split
  · simp [Char.isDigit] at hdigits
  · rfl

end Spells

/-- A string of digits spells its value. -/
theorem spells_value (hne : cs ≠ []) (hdigits : cs.all Char.isDigit = true) : Spells cs (value cs) := by
  induction cs using List.reverseRecOn with
  | nil => exact absurd rfl hne
  | append_singleton cs c ih =>
    rw [List.all_append, Bool.and_eq_true] at hdigits
    obtain ⟨hbefore, hlast⟩ := hdigits
    obtain ⟨digit, hdigit, rfl⟩ := exists_digitChar (List.all_eq_true.mp hlast c List.mem_cons_self)
    rw [value_concat cs hdigit]
    by_cases hcs : cs = []
    · subst hcs
      have hempty : value [] = 0 := rfl
      rw [hempty, Nat.zero_mul, Nat.zero_add]
      exact .one hdigit
    · exact .more (ih hcs hbefore) hdigit

/-- Strings of digits are read, and nothing else. -/
theorem digits?_eq_some_iff : digits? cs = some n ↔ Spells cs n := by
  constructor
  · intro h
    unfold digits? at h
    split at h
    · rename_i hdigits
      obtain rfl := Option.some.inj h
      exact spells_value hdigits.1 hdigits.2
    · cases h
  · intro h
    rw [digits?, if_pos ⟨h.ne_nil, h.all_isDigit⟩, h.value_eq]

/-! ### With a sign or without -/

theorem isNumeral_iff : IsNumeral cs n ↔ Spells (unsigned cs) n := by
  constructor
  · intro h
    cases h with
    | plain h =>
      rw [h.unsigned_eq]
      exact h
    | signed h => exact h
  · intro h
    unfold unsigned at h
    split at h
    · exact .signed h
    · exact .plain h

/-- No text spells two numbers. -/
theorem IsNumeral.eq {m : Nat} (h : IsNumeral cs n) (other : IsNumeral cs m) : n = m := by
  have hn := (isNumeral_iff.mp h).value_eq
  have hm := (isNumeral_iff.mp other).value_eq
  exact hn.symm.trans hm

/-- The signs and digits of a number below the bound are read, and nothing else. -/
theorem read?_eq_some_iff {bound : Nat} : read? bound cs = some n ↔ IsNumeral cs n ∧ n < bound := by
  rw [read?, Option.filter_eq_some_iff, digits?_eq_some_iff, isNumeral_iff, decide_eq_true_iff]

/-- The numerals of 32-bit numbers are read, and nothing else. -/
theorem readWord?_eq_some_iff {word : UInt32} : readWord? cs = some word ↔ IsNumeral cs word.toNat := by
  rw [readWord?, Option.map_eq_some_iff]
  constructor
  · rintro ⟨n, hread, rfl⟩
    obtain ⟨hnumeral, hbound⟩ := read?_eq_some_iff.mp hread
    rw [UInt32.toNat_ofNat_of_lt' hbound]
    exact hnumeral
  · intro h
    exact ⟨word.toNat, read?_eq_some_iff.mpr ⟨h, word.toNat_lt⟩, UInt32.ofNat_toNat⟩

/-- A written number is one of its own spellings. -/
theorem isNumeral_chars (n : Nat) : IsNumeral (chars n) n :=
  .plain (digits?_eq_some_iff.mp (digits?_chars n))

end ProfileGuard.Text.Decimal
