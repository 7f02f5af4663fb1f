import Mathlib.Tactic.IntervalCases
import ProfileGuard.Json.Tree
import ProfileGuard.Json.Writer

/-!
# Written texts read back

A text is written between quotes character by character, as its UTF-8 bytes or as an escape.  Read back, the
characters become pieces, and the pieces stand for the bytes of the text.

* **`Bytes.ofChars`** — the UTF-8 form of characters.
* **`Json.Piece.ofText`** — the pieces of a written text.
* **`Json.readPieces?_quote`** — a written text is read up to its closing quote.
* **`Json.Piece.text?_ofText`** — the pieces stand for the text that was written.
-/

namespace ProfileGuard

/-- The UTF-8 form of characters. -/
def Bytes.ofChars (cs : List Char) : Bytes := cs.flatMap String.utf8EncodeChar

@[simp] theorem Bytes.ofChars_append (cs ds : List Char) :
    Bytes.ofChars (cs ++ ds) = Bytes.ofChars cs ++ Bytes.ofChars ds := List.flatMap_append

@[simp] theorem Bytes.ofChars_cons (c : Char) (cs : List Char) :
    Bytes.ofChars (c :: cs) = String.utf8EncodeChar c ++ Bytes.ofChars cs := List.flatMap_cons

theorem Bytes.ofText_ofList (cs : List Char) :
    Bytes.ofText (String.ofList cs) = Bytes.ofChars cs := by
  rw [Bytes.ofText, String.toUTF8, String.toByteArray_ofList]
  exact List.toList_data_toByteArray

namespace Json

/-! ### Bytes that stand for themselves -/

/-- A byte that stands for itself in a string. -/
def IsPlain (b : UInt8) : Prop := 0x20 ≤ b.toNat ∧ b.toNat ≠ 0x22 ∧ b.toNat ≠ 0x5C

/-- A byte of a character's UTF-8 form is the character itself, or lies above all ASCII. -/
theorem mem_utf8EncodeChar {c : Char} {b : UInt8} (h : b ∈ String.utf8EncodeChar c) :
    b.toNat = c.toNat ∨ 0x80 ≤ b.toNat := by
  have hc : c.val.toNat = c.toNat := rfl
  simp only [String.utf8EncodeChar] at h
  split at h
  · rw [List.mem_singleton.1 h, UInt8.toNat_ofNat']
    omega
  · right
    split at h
    · simp only [List.mem_cons, List.not_mem_nil, or_false] at h
      rcases h with rfl | rfl <;> rw [UInt8.toNat_ofNat'] <;> omega
    · split at h
      · simp only [List.mem_cons, List.not_mem_nil, or_false] at h
        rcases h with rfl | rfl | rfl <;> rw [UInt8.toNat_ofNat'] <;> omega
      · simp only [List.mem_cons, List.not_mem_nil, or_false] at h
        rcases h with rfl | rfl | rfl | rfl <;> rw [UInt8.toNat_ofNat'] <;> omega

/-- A character that needs no escape is written in bytes that stand for themselves. -/
theorem isPlain_utf8EncodeChar {c : Char} (hlow : 0x20 ≤ c.toNat) (hquote : c ≠ '"')
    (hslash : c ≠ '\\') : ∀ b ∈ String.utf8EncodeChar c, IsPlain b := by
  have hquoteNat : c.toNat ≠ 0x22 := fun h => hquote (Char.toNat_inj.1 h)
  have hslashNat : c.toNat ≠ 0x5C := fun h => hslash (Char.toNat_inj.1 h)
  intro b hb
  have hcases := mem_utf8EncodeChar hb
  unfold IsPlain
  omega

theorem readPieces?_plain {b : UInt8} (h : IsPlain b) (rest : Bytes) :
    readPieces? (b :: rest) = (readPieces? rest).map fun (ps, rest) => (.byte b :: ps, rest) := by
  obtain ⟨hlow, hquote, hslash⟩ := h
  have hb : ¬b < 0x20 := by
    rw [UInt8.lt_iff_toNat_lt]
    exact Nat.not_lt.2 hlow
  rw [readPieces?, if_neg hb]
  · rintro rfl
    exact hquote rfl
  · rintro _ _ _ _ _ rfl
    exact absurd rfl hslash
  · rintro _ _ rfl
    exact absurd rfl hslash

theorem readPieces?_plain_append {bs : Bytes} (h : ∀ b ∈ bs, IsPlain b) (rest : Bytes) :
    readPieces? (bs ++ rest) =
      (readPieces? rest).map fun (ps, rest) => (bs.map Piece.byte ++ ps, rest) := by
  induction bs with
  | nil => cases hread : readPieces? rest <;> simp [hread]
  | cons b bs ih =>
    rw [List.cons_append, readPieces?_plain (h b List.mem_cons_self),
      ih fun b hb => h b (List.mem_cons_of_mem _ hb), Option.map_map]
    rfl

/-! ### One character -/

theorem readPieces?_short {e b : UInt8} (h : shortEscape? e = some b) (rest : Bytes) :
    readPieces? (0x5C :: e :: rest) =
      (readPieces? rest).map fun (ps, rest) => (.byte b :: ps, rest) := by
  have he : e ≠ 0x75 := by
    rintro rfl
    have hnone : shortEscape? 0x75 = none := by decide
    rw [hnone] at h
    contradiction
  rw [readPieces?, h]
  · cases hread : readPieces? rest <;> rfl
  · intro _ _ _ _ _ heq
    exact absurd heq he

theorem readPieces?_unit {a b c d : UInt8} {u : UInt16} (h : codeUnit? a b c d = some u)
    (rest : Bytes) :
    readPieces? (0x5C :: 0x75 :: a :: b :: c :: d :: rest) =
      (readPieces? rest).map fun (ps, rest) => (.unit u :: ps, rest) := by
  rw [readPieces?, h]
  cases hread : readPieces? rest <;> rfl

/-- Whether a character can only be written as a code unit. -/
def needsUnit (c : Char) : Bool :=
  c.toNat < 0x20 && c ∉ ['\n', '\t', '\r', Char.ofNat 8, Char.ofNat 12]

/-- The pieces that a written character is read as. -/
def Piece.ofChar (c : Char) : List Piece :=
  if needsUnit c then [.unit (UInt16.ofNat c.toNat)] else (String.utf8EncodeChar c).map .byte

theorem readPieces?_control {n : Nat} (h : n < 0x20) (rest : Bytes) :
    readPieces? (Bytes.ofChars (Write.escape (Char.ofNat n)) ++ rest) =
      (readPieces? rest).map fun (ps, rest) => (Piece.ofChar (Char.ofNat n) ++ ps, rest) := by
  -- a short escape has two characters, a code unit six
  interval_cases n <;> first
    | refine readPieces?_unit ?_ rest; rfl
    | refine readPieces?_short ?_ rest; rfl

theorem readPieces?_escape (c : Char) (rest : Bytes) :
    readPieces? (Bytes.ofChars (Write.escape c) ++ rest) =
      (readPieces? rest).map fun (ps, rest) => (Piece.ofChar c ++ ps, rest) := by
  by_cases hquote : c = '"'
  · subst hquote
    exact readPieces?_short rfl rest
  · by_cases hslash : c = '\\'
    · subst hslash
      exact readPieces?_short rfl rest
    · by_cases hlow : 0x20 ≤ c.toNat
      · have hchars : Write.escape c = [c] := by
          rw [Write.escape, if_neg hquote, if_neg hslash, if_pos hlow]
        have hpieces : Piece.ofChar c = (String.utf8EncodeChar c).map .byte := by
          rw [Piece.ofChar, needsUnit, decide_eq_false (by omega)]
          rfl
        rw [hchars, hpieces, Bytes.ofChars_cons, List.append_assoc,
          readPieces?_plain_append (isPlain_utf8EncodeChar hlow hquote hslash)]
        rfl
      · have hread := readPieces?_control (by omega : c.toNat < 0x20) rest
        rwa [Char.ofNat_toNat] at hread

/-! ### A whole text -/

/-- The pieces that a written text is read as. -/
def Piece.ofText (text : String) : List Piece := text.toList.flatMap Piece.ofChar

/-- A written text is read up to its closing quote. -/
theorem readPieces?_quote (text : String) (rest : Bytes) :
    readPieces? (Bytes.ofChars (text.toList.flatMap Write.escape) ++ 0x22 :: rest) =
      some (Piece.ofText text, rest) := by
  rw [Piece.ofText]
  induction text.toList with
  | nil => rfl
  | cons c cs ih =>
    rw [List.flatMap_cons, Bytes.ofChars_append, List.append_assoc, readPieces?_escape, ih]
    rfl

/-! ### What the pieces stand for -/

theorem Piece.bytes?_map_byte (bs : Bytes) (ps : List Piece) :
    Piece.bytes? (bs.map Piece.byte ++ ps) = (Piece.bytes? ps).map (bs ++ ·) := by
  induction bs with
  | nil => cases hread : Piece.bytes? ps <;> simp [hread]
  | cons b bs ih =>
    rw [List.map_cons, List.cons_append, Piece.bytes?, ih, Option.map_map]
    rfl

theorem Piece.bytes?_ofChar (c : Char) (ps : List Piece) :
    Piece.bytes? (Piece.ofChar c ++ ps) =
      (Piece.bytes? ps).map (String.utf8EncodeChar c ++ ·) := by
  unfold Piece.ofChar
  split
  next hunit =>
    have hlow : c.toNat < 0x20 := by
      simp [needsUnit] at hunit
      exact hunit.1
    have hvalue : (UInt16.ofNat c.toNat).toNat = c.toNat := by
      rw [UInt16.toNat_ofNat']
      omega
    -- a control character is no half of a pair
    have hhigh : ¬(0xD800 ≤ UInt16.ofNat c.toNat ∧ UInt16.ofNat c.toNat < 0xDC00) := by
      rw [UInt16.le_iff_toNat_le, hvalue]
      intro h
      exact absurd h.1 (Nat.not_le.2 (Nat.lt_trans hlow (by decide)))
    have hlower : ¬(0xDC00 ≤ UInt16.ofNat c.toNat ∧ UInt16.ofNat c.toNat < 0xE000) := by
      rw [UInt16.le_iff_toNat_le, hvalue]
      intro h
      exact absurd h.1 (Nat.not_le.2 (Nat.lt_trans hlow (by decide)))
    rw [List.singleton_append, Piece.bytes?.eq_def]
    simp only [if_neg hhigh, if_neg hlower, utf8, hvalue, Char.ofNat_toNat]
  next => exact Piece.bytes?_map_byte _ _

/-- The pieces of a written text stand for the text. -/
theorem Piece.text?_ofText (text : String) : Piece.text? (Piece.ofText text) = some text := by
  have hbytes (cs : List Char) :
      Piece.bytes? (cs.flatMap Piece.ofChar) = some (Bytes.ofChars cs) := by
    induction cs with
    | nil => rfl
    | cons c cs ih =>
      rw [List.flatMap_cons, Piece.bytes?_ofChar, ih]
      rfl
  rw [Piece.text?, Piece.ofText, hbytes, Option.bind_some, ← Bytes.ofText_ofList,
    String.ofList_toList, Bytes.text?_ofText]

end Json

end ProfileGuard
