import ProfileGuard.Json.Value
import ProfileGuard.Proofs.Json.Document

/-!
# Written integers read back

An integer is written in decimal, without leading zeros.  Its digits are read up to the token behind it, and
as long as it fits 64 bits the reader takes it for the integer it was.

* **`Json.Numeral.ofNat`** — the numeral of a written integer.
* **`Json.readUnsigned?_chars`** — the digits of an integer are read up to the next token.
* **`Json.readsAs_natural`** / **`Json.readsAs_negative`** — a written integer is read as its numeral.
* **`Json.Numeral.number?_natural`** / **`Json.Numeral.number?_negative`** — the numeral stands for the
  integer.
-/

namespace ProfileGuard.Json

open Text.Decimal (chars)

/-! ### Digits -/

/-- The values of digits. -/
def digitValues (cs : List Char) : List Nat := cs.map fun c => c.toNat - '0'.toNat

/-- The numeral of a written integer. -/
def Numeral.ofNat (negative : Bool) (n : Nat) : Numeral := ⟨negative, digitValues (chars n), [], none⟩

/-- A digit is one byte. -/
theorem utf8EncodeChar_digit {c : Char} (h : c.isDigit = true) :
    ∃ b, String.utf8EncodeChar c = [b] ∧ isDigit b = true ∧ b.toNat = c.toNat := by
  have hval : c.val.toNat = c.toNat := rfl
  have hrange : 48 ≤ c.toNat ∧ c.toNat ≤ 57 := Char.isDigit_iff_toNat.1 h
  have hbyte : (UInt8.ofNat c.toNat).toNat = c.toNat := by
    rw [UInt8.toNat_ofNat']
    omega
  refine ⟨UInt8.ofNat c.toNat, ?_, ?_, hbyte⟩
  · rw [String.utf8EncodeChar, if_pos (by omega), hval]
  · simp [isDigit, UInt8.le_iff_toNat_le, hbyte, hrange]

/-- Digits are read up to the first byte that is none. -/
theorem digitRun_ofChars {cs : List Char} (h : cs.all Char.isDigit = true) {rest : Bytes}
    (stops : ∀ b ∈ rest.head?, isDigit b = false) :
    digitRun (Bytes.ofChars cs ++ rest) = (digitValues cs, rest) := by
  induction cs with
  | nil =>
    cases rest with
    | nil => rfl
    | cons b rest =>
      have hb : isDigit b = false := stops b rfl
      simp [digitRun, hb, Bytes.ofChars, digitValues]
  | cons c cs ih =>
    rw [List.all_cons, Bool.and_eq_true] at h
    obtain ⟨b, hbytes, hdigit, hvalue⟩ := utf8EncodeChar_digit h.1
    obtain ⟨hvalues, hrest⟩ := Prod.mk.inj (ih h.2)
    rw [digitRun, Bytes.ofChars_cons, hbytes, List.append_assoc, List.singleton_append,
      List.takeWhile_cons_of_pos hdigit, List.dropWhile_cons_of_pos hdigit, List.map_cons, hvalues,
      hrest, hvalue]
    rfl

theorem digitValues_chars_ne_nil (n : Nat) : digitValues (chars n) ≠ [] := by
  rw [digitValues, ne_eq, List.map_eq_nil_iff]
  exact Text.Decimal.chars_ne_nil n

/-- Only zero is written with a leading zero. -/
theorem eq_zero_of_head?_digitValues {n : Nat} (h : (digitValues (chars n)).head? = some 0) : n = 0 := by
  induction n using Nat.strongRecOn with
  | _ n ih =>
    by_cases hsmall : n < 10
    · rw [chars, Nat.toDigits_of_lt_base hsmall] at h
      have hvalue : n.digitChar.toNat - '0'.toNat = n := Nat.toNat_digitChar_sub_48_of_lt_ten hsmall
      rw [← hvalue]
      exact Option.some.inj h
    · -- the digits begin like those of the tenth part
      have hdigits : digitValues (chars n) =
          digitValues (chars (n / 10)) ++ digitValues [(n % 10).digitChar] := by
        rw [chars, Nat.toDigits_of_base_le (by decide) (by omega), digitValues, List.map_append]
        rfl
      obtain ⟨k, ks, hk⟩ := List.exists_cons_of_ne_nil (digitValues_chars_ne_nil (n / 10))
      rw [hdigits, hk] at h
      have htenth : n / 10 = 0 := ih (n / 10) (by omega) (by rw [hk]; exact h)
      omega

/-! ### The numeral -/

/-- What follows a value is no part of a number. -/
theorem FollowsValue.isDigit_eq_false {rest : Bytes} (h : FollowsValue rest) :
    ∀ b ∈ rest.head?, isDigit b = false := by
  intro b hb
  rcases h b hb with rfl | rfl | rfl <;> rfl

theorem FollowsValue.readFraction? {rest : Bytes} (h : FollowsValue rest) :
    readFraction? rest = some ([], rest) := by
  cases rest with
  | nil => rfl
  | cons b rest => rcases h b rfl with rfl | rfl | rfl <;> rfl

theorem FollowsValue.readExponent? {rest : Bytes} (h : FollowsValue rest) :
    readExponent? rest = some (none, rest) := by
  cases rest with
  | nil => rfl
  | cons b rest => rcases h b rfl with rfl | rfl | rfl <;> rfl

theorem readWhole?_chars (n : Nat) {rest : Bytes} (h : FollowsValue rest) :
    readWhole? (Bytes.ofChars (chars n) ++ rest) = some (digitValues (chars n), rest) := by
  rw [readWhole?, digitRun_ofChars (Text.Decimal.all_isDigit_chars n) h.isDigit_eq_false]
  obtain ⟨k, ks, hk⟩ := List.exists_cons_of_ne_nil (digitValues_chars_ne_nil n)
  rw [hk]
  cases k with
  | succ k => rfl
  | zero =>
    obtain rfl : n = 0 := eq_zero_of_head?_digitValues (by rw [hk]; rfl)
    obtain rfl : [] = ks := (List.cons.inj hk).2
    rfl

/-- The digits of an integer are read up to the next token. -/
theorem readUnsigned?_chars (negative : Bool) (n : Nat) {rest : Bytes} (h : FollowsValue rest) :
    readUnsigned? negative (Bytes.ofChars (chars n) ++ rest) = some (.ofNat negative n, rest) := by
  simp only [readUnsigned?, readWhole?_chars n h, h.readFraction?, h.readExponent?,
    Option.bind_eq_bind, Option.bind_some]
  rfl

/-- An integer begins with a digit. -/
theorem exists_ofChars_chars (n : Nat) :
    ∃ b bs, Bytes.ofChars (chars n) = b :: bs ∧ isDigit b = true := by
  have hall := Text.Decimal.all_isDigit_chars n
  cases hchars : chars n with
  | nil => exact absurd hchars (Text.Decimal.chars_ne_nil n)
  | cons c cs =>
    rw [hchars, List.all_cons, Bool.and_eq_true] at hall
    obtain ⟨b, hbytes, hdigit, -⟩ := utf8EncodeChar_digit hall.1
    exact ⟨b, Bytes.ofChars cs, by rw [Bytes.ofChars_cons, hbytes]; rfl, hdigit⟩

theorem readsAs_natural (n : Nat) : ReadsAs (chars n) (.number (.ofNat false n)) := by
  obtain ⟨b, bs, hbytes, hdigit⟩ := exists_ofChars_chars n
  have hother : ∀ other : UInt8, isDigit other = false → b ≠ other := by
    rintro other hfalse rfl
    exact Bool.false_ne_true (hfalse.symm.trans hdigit)
  have hspace : isSpace b = false := by
    simp [isSpace, hother 0x20 rfl, hother 0x09 rfl, hother 0x0A rfl, hother 0x0D rfl]
  refine ReadsAs.of_cons b bs hbytes hspace (hother 0x5D rfl) ?_
  intro fuel rest _ hrest
  have hread := readUnsigned?_chars false n hrest
  rw [hbytes, List.cons_append] at hread
  have hnumeral : b ∉ [0x6E, 0x74, 0x66, 0x22, 0x5B, 0x7B] := by
    simp [hother 0x6E rfl, hother 0x74 rfl, hother 0x66 rfl, hother 0x22 rfl, hother 0x5B rfl,
      hother 0x7B rfl]
  rw [readValue?_numeral fuel _ hnumeral, readNumeral?, hread]
  · rfl
  · intro _ heq
    exact absurd (List.cons.inj heq).1 (hother _ rfl)

/-- A written natural number. -/
def Written.natural (n : Nat) : Written := ⟨Text.Decimal.chars n, _, readsAs_natural n⟩

theorem readsAs_negative (n : Nat) : ReadsAs ('-' :: chars n) (.number (.ofNat true n)) := by
  refine ReadsAs.of_cons 0x2D (Bytes.ofChars (chars n)) (by rw [Bytes.ofChars_cons]; rfl) rfl
    (by decide) ?_
  intro fuel rest _ hrest
  rw [readValue?_numeral fuel _ (by decide), readNumeral?, readUnsigned?_chars true n hrest]
  rfl

/-! ### The number -/

theorem digitsValue_digitValues (cs : List Char) :
    Tree.digitsValue (digitValues cs) = Nat.ofDigitChars 10 cs 0 := by
  rw [Tree.digitsValue, digitValues, List.foldl_map, Nat.ofDigitChars]
  simp only [Nat.mul_comm]

/-- The digits of an integer have its value. -/
theorem digitsValue_chars (n : Nat) : Tree.digitsValue (digitValues (chars n)) = n := by
  rw [digitsValue_digitValues]
  exact Nat.ofDigitChars_ten_toDigits

/-- Digits whose value fits 64 bits are all taken up. -/
theorem significand_digitValues {cs : List Char} {acc : Nat}
    (h : Nat.ofDigitChars 10 cs acc < UInt64.size) :
    significand acc (digitValues cs) = (Nat.ofDigitChars 10 cs acc, 0) := by
  induction cs generalizing acc with
  | nil => rfl
  | cons c cs ih =>
    rw [Nat.ofDigitChars_cons, Nat.mul_comm] at h ⊢
    have hbound : acc * 10 + (c.toNat - '0'.toNat) < UInt64.size := by
      refine Nat.lt_of_le_of_lt ?_ h
      rw [Nat.ofDigitChars_eq_ofDigitChars_zero]
      exact Nat.le_add_right_of_le (Nat.le_mul_of_pos_left _ (Nat.pow_pos (by decide)))
    rw [digitValues, List.map_cons, significand, if_pos hbound]
    exact ih h

theorem significand_chars {n : Nat} (h : n < UInt64.size) :
    significand 0 (digitValues (chars n)) = (n, 0) := by
  have hvalue : Nat.ofDigitChars 10 (chars n) 0 = n := Nat.ofDigitChars_ten_toDigits
  have hfits : Nat.ofDigitChars 10 (chars n) 0 < UInt64.size := by rwa [hvalue]
  have htaken := significand_digitValues hfits
  rwa [hvalue] at htaken

theorem Numeral.number?_natural (n : UInt64) :
    (Numeral.ofNat false n.toNat).number? = some (.natural n) := by
  simp [Numeral.number?, Numeral.ofNat, significand_chars n.toNat_lt]

theorem Numeral.number?_negative {n : UInt64} (positive : 0 < n.toNat)
    (bounded : n.toNat ≤ UInt64.size / 2) :
    (Numeral.ofNat true n.toNat).number? = some (.negative n) := by
  simp [Numeral.number?, Numeral.ofNat, significand_chars n.toNat_lt, positive, bounded]

end ProfileGuard.Json
