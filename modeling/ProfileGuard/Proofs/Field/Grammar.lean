import ProfileGuard.Proofs.Attempt
import ProfileGuard.Proofs.Field.Opening
import ProfileGuard.Proofs.Text.Spelling

/-!
# The grammar of envelopes

What is read as an envelope is said here without the reader: `v`, a numeral, and the base64 of a nonce and of a
ciphertext, with colons between them.  Base64 has one text for each byte sequence, so that two texts with the
same content differ at most in how they spell the version.

* **`Field.Envelope.IsSplit`** / **`Field.Envelope.parse_eq_ok_iff`** — the parts before they are decoded.
* **`Field.Envelope.read`** / **`Field.Envelope.IsSpelled`** — what a text stands for, by the reader and by the
  grammar.
* **`Field.Envelope.IsSpelled.unique`** — a text stands for one thing only, in one way.
* **`Field.Envelope.read_iff_isSpelled`** — the reader accepts exactly the grammar, and reads what is written.
-/

namespace ProfileGuard.Field

open Text.Decimal (IsNumeral)

/-! ### Parts between colons -/

theorem splitColon?_eq_some_iff {cs before after : List Char} :
    splitColon? cs = some (before, after) ↔ cs = before ++ ':' :: after ∧ ∀ c ∈ before, c ≠ ':' := by
  constructor
  · intro h
    induction cs generalizing before with
    | nil => cases h
    | cons c cs ih =>
      unfold splitColon? at h
      split at h
      · rename_i hcolon
        obtain ⟨rfl, rfl⟩ := Prod.mk.inj (Option.some.inj h)
        exact ⟨by rw [hcolon]; rfl, fun _ hmem => absurd hmem List.not_mem_nil⟩
      · rename_i hcolon
        obtain ⟨⟨first, rest⟩, hsplit, hparts⟩ := Option.map_eq_some_iff.mp h
        obtain ⟨rfl, rfl⟩ := Prod.mk.inj hparts
        obtain ⟨rfl, hfirst⟩ := ih hsplit
        refine ⟨rfl, fun d hmem => ?_⟩
        rcases List.mem_cons.mp hmem with rfl | hmem
        · exact hcolon
        · exact hfirst d hmem
  · rintro ⟨rfl, h⟩
    exact splitColon?_append h after

/-- Only the first two colons part a text. -/
theorem threeParts?_eq_some_iff {cs first second third : List Char} :
    threeParts? cs = some (first, second, third) ↔
      cs = first ++ ':' :: (second ++ ':' :: third) ∧ (∀ c ∈ first, c ≠ ':') ∧
        ∀ c ∈ second, c ≠ ':' := by
  constructor
  · intro h
    simp only [threeParts?, Option.bind_eq_bind, Option.bind_eq_some_iff] at h
    obtain ⟨⟨before, rest⟩, hbefore, ⟨middle, last⟩, hmiddle, hparts⟩ := h
    obtain ⟨rfl, rfl, rfl⟩ : before = first ∧ middle = second ∧ last = third := by
      simpa using Option.some.inj hparts
    obtain ⟨rfl, hfirst⟩ := splitColon?_eq_some_iff.mp hbefore
    obtain ⟨rfl, hsecond⟩ := splitColon?_eq_some_iff.mp hmiddle
    exact ⟨rfl, hfirst, hsecond⟩
  · rintro ⟨rfl, hfirst, hsecond⟩
    exact threeParts?_append hfirst hsecond third

theorem ne_colon_of_mem_numeral {spelling : List Char} {n : Nat} (h : IsNumeral spelling n) :
    ∀ c ∈ spelling, c ≠ ':' := by
  have hdigits : ∀ {cs}, Text.Decimal.Spells cs n → ∀ c ∈ cs, c ≠ ':' := by
    rintro cs hcs c hmem rfl
    exact absurd (List.all_eq_true.mp hcs.all_isDigit _ hmem) (by decide)
  intro c hmem
  cases h with
  | plain h => exact hdigits h c hmem
  | signed h =>
    rcases List.mem_cons.mp hmem with rfl | hmem
    · decide
    · exact hdigits h c hmem

namespace Envelope

/-! ### Before decoding -/

/-- A positive version is read from `v` and any of its spellings. -/
theorem readVersion_eq_ok_iff {cs : List Char} {version : UInt32} :
    readVersion cs = .ok version ↔
      ∃ spelling, cs = 'v' :: spelling ∧ IsNumeral spelling version.toNat ∧ version ≠ 0 := by
  constructor
  · intro h
    unfold readVersion at h
    split at h
    · rename_i spelling
      split at h
      · rename_i read hread
        split at h
        · cases h
        · rename_i hzero
          obtain rfl := Except.ok.inj h
          exact ⟨spelling, rfl, Text.Decimal.readWord?_eq_some_iff.mp hread, hzero⟩
      · cases h
    · cases h
  · rintro ⟨spelling, rfl, hnumeral, hzero⟩
    simp only [readVersion, Text.Decimal.readWord?_eq_some_iff.mpr hnumeral, if_neg hzero]

/-- A text is `v`, a spelling of the version, and the two other parts, with colons between them. -/
structure IsSplit (text : String) (spelling : List Char) (parsed : Envelope) : Prop where
  text_eq : text.toList =
    ('v' :: spelling) ++ ':' :: (parsed.nonce ++ ':' :: parsed.ciphertext)
  numeral : IsNumeral spelling parsed.version.toNat
  version_ne_zero : parsed.version ≠ 0
  nonce_ne_colon : ∀ c ∈ parsed.nonce, c ≠ ':'

theorem IsSplit.threeParts? {text : String} {spelling : List Char} {parsed : Envelope}
    (h : IsSplit text spelling parsed) :
    Field.threeParts? text.toList = some ('v' :: spelling, parsed.nonce, parsed.ciphertext) := by
  refine threeParts?_eq_some_iff.mpr ⟨h.text_eq, fun c hmem => ?_, h.nonce_ne_colon⟩
  rcases List.mem_cons.mp hmem with rfl | hmem
  · decide
  · exact ne_colon_of_mem_numeral h.numeral c hmem

/-- Exactly the texts of three parts that begin with a version are parsed. -/
theorem parse_eq_ok_iff {text : String} {parsed : Envelope} :
    parse text = .ok parsed ↔ ∃ spelling, IsSplit text spelling parsed := by
  constructor
  · intro h
    unfold parse parseChars at h
    split at h
    · rename_i first nonce ciphertext hparts
      obtain ⟨htext, -, hnonce⟩ := threeParts?_eq_some_iff.mp hparts
      obtain ⟨version, hversion, h⟩ := Attempt.bind_eq_ok_iff.mp h
      obtain rfl := Except.ok.inj h
      obtain ⟨spelling, rfl, hnumeral, hzero⟩ := readVersion_eq_ok_iff.mp hversion
      exact ⟨spelling, htext, hnumeral, hzero, hnonce⟩
    · cases h
  · rintro ⟨spelling, h⟩
    have hversion := readVersion_eq_ok_iff.mpr ⟨spelling, rfl, h.numeral, h.version_ne_zero⟩
    rw [parse, parseChars, h.threeParts?]
    simp only [hversion]
    rfl

/-! ### With the bytes -/

/-- The version, the nonce and the ciphertext that a text stands for. -/
def read (text : String) : Except Error (UInt32 × Bytes × Bytes) := do
  let parsed ← parse text
  let (nonce, ciphertext) ← parsed.decode
  return (parsed.version, nonce, ciphertext)

/-- A text is `v`, a spelling of a version, which is a positive number of 32 bits, and the base64 of a nonce of 12
bytes and of a ciphertext, with colons between them. -/
structure IsSpelled (text : String) (spelling : List Char) (version : UInt32) (nonce ciphertext : Bytes) :
    Prop where
  text_eq : text.toList = ('v' :: spelling) ++ ':' ::
    (Text.Base64.encodeChars nonce ++ ':' :: Text.Base64.encodeChars ciphertext)
  numeral : IsNumeral spelling version.toNat
  one_le : 1 ≤ version.toNat
  length_eq : nonce.length = 12

variable {text : String} {version : UInt32} {nonce ciphertext : Bytes}

/-- Reading is parsing and then decoding. -/
theorem read_eq_ok_iff : read text = .ok (version, nonce, ciphertext) ↔
    ∃ parsed, parse text = .ok parsed ∧ parsed.version = version ∧ parsed.Holds nonce ciphertext := by
  rw [read, Attempt.bind_eq_ok_iff]
  refine exists_congr fun parsed => and_congr_right fun _ => ?_
  rw [Attempt.bind_eq_ok_iff]
  constructor
  · rintro ⟨⟨_, _⟩, hdecode, hreturn⟩
    obtain ⟨hversion, rfl, rfl⟩ : parsed.version = version ∧ _ = nonce ∧ _ = ciphertext := by
      simpa using Except.ok.inj hreturn
    exact ⟨hversion, decode_eq_ok_iff.mp hdecode⟩
  · rintro ⟨rfl, holds⟩
    exact ⟨_, holds.decode, rfl⟩

/-- Whether a text is short enough to be sealed again is seen by reading it. -/
instance (text : String) : Decidable (FitsSealing text) :=
  decidable_of_iff (∀ parts ∈ (read text).toOption, parts.2.2.length ≤ sealLimit + 16) <| by
    constructor
    · intro fits parsed nonce ciphertext hparse holds
      have hread := read_eq_ok_iff.mpr ⟨parsed, hparse, rfl, holds⟩
      exact fits (parsed.version, nonce, ciphertext) (by rw [hread]; rfl)
    · rintro fits ⟨version, nonce, ciphertext⟩ hparts
      cases hread : read text with
      | error _ => simp [hread, Except.toOption] at hparts
      | ok parts =>
        obtain rfl : parts = (version, nonce, ciphertext) := by
          simpa [hread, Except.toOption] using hparts
        obtain ⟨parsed, hparse, -, holds⟩ := read_eq_ok_iff.mp hread
        exact fits parsed nonce ciphertext hparse holds

theorem one_le_toNat (h : version ≠ 0) : 1 ≤ version.toNat :=
  Nat.one_le_iff_ne_zero.mpr fun hzero => h (UInt32.toNat_inj.mp hzero)

theorem IsSplit.isSpelled {spelling : List Char} {parsed : Envelope}
    (h : IsSplit text spelling parsed) (holds : parsed.Holds nonce ciphertext) :
    IsSpelled text spelling parsed.version nonce ciphertext where
  text_eq := by rw [h.text_eq, holds.nonce_eq, holds.ciphertext_eq]
  numeral := h.numeral
  one_le := one_le_toNat h.version_ne_zero
  length_eq := holds.length_eq

namespace IsSpelled

variable {spelling : List Char}

theorem version_ne_zero (h : IsSpelled text spelling version nonce ciphertext) : version ≠ 0 := by
  rintro rfl
  exact absurd h.one_le (by decide)

/-- The parts of such a text are base64. -/
theorem isSplit (h : IsSpelled text spelling version nonce ciphertext) :
    IsSplit text spelling
      ⟨version, Text.Base64.encodeChars nonce, Text.Base64.encodeChars ciphertext⟩ where
  text_eq := h.text_eq
  numeral := h.numeral
  version_ne_zero := h.version_ne_zero
  nonce_ne_colon _ := Text.Base64.ne_colon_of_mem_encodeChars

/-- **A text stands for one envelope, in one way.** -/
theorem unique (h : IsSpelled text spelling version nonce ciphertext) {spelling' : List Char}
    {version' : UInt32} {nonce' ciphertext' : Bytes}
    (h' : IsSpelled text spelling' version' nonce' ciphertext') :
    spelling = spelling' ∧ version = version' ∧ nonce = nonce' ∧ ciphertext = ciphertext' := by
  have hparts := h.isSplit.threeParts?
  rw [h'.isSplit.threeParts?] at hparts
  obtain ⟨hfirst, hnonce, hciphertext⟩ : 'v' :: spelling' = 'v' :: spelling ∧
      Text.Base64.encodeChars nonce' = Text.Base64.encodeChars nonce ∧
      Text.Base64.encodeChars ciphertext' = Text.Base64.encodeChars ciphertext := by
    simpa using Option.some.inj hparts
  obtain rfl := (List.cons.inj hfirst).2
  refine ⟨rfl, ?_, ?_, ?_⟩
  · exact UInt32.toNat_inj.mp (h.numeral.eq h'.numeral)
  · exact (Text.Base64.encodeChars_injective hnonce).symm
  · exact (Text.Base64.encodeChars_injective hciphertext).symm

end IsSpelled

/-- What is written is spelled with the digits of the version. -/
theorem isSpelled_render {version : UInt32} (h : version ≠ 0) (nonce : Nonce) (ciphertext : Bytes) :
    IsSpelled (String.ofList (render version nonce ciphertext)) (Text.Decimal.chars version.toNat)
      version nonce.bytes ciphertext where
  text_eq := by
    rw [String.toList_ofList, render]
    simp
  numeral := Text.Decimal.isNumeral_chars version.toNat
  one_le := one_le_toNat h
  length_eq := nonce.length_eq

/-- **The reader accepts exactly the grammar.**  A text is read as a version, a nonce and a ciphertext if and
only if it is `v`, a spelling of that version, and the base64 of the two, with colons between them.  No text is
such in two ways, and nothing but the spelling of the version is free.  What is written of a version, a nonce and
a ciphertext is read as these. -/
theorem read_iff_isSpelled :
    (∀ text version nonce ciphertext, read text = .ok (version, nonce, ciphertext) ↔
      ∃ spelling, IsSpelled text spelling version nonce ciphertext) ∧
    (∀ text spelling version nonce ciphertext spelling' version' nonce' ciphertext',
      IsSpelled text spelling version nonce ciphertext →
      IsSpelled text spelling' version' nonce' ciphertext' →
        spelling = spelling' ∧ version = version' ∧ nonce = nonce' ∧ ciphertext = ciphertext') ∧
    (∀ text text' spelling version nonce ciphertext,
      IsSpelled text spelling version nonce ciphertext →
      IsSpelled text' spelling version nonce ciphertext → text = text') ∧
    ∀ (version : UInt32) (nonce : Nonce) (ciphertext : Bytes), version ≠ 0 →
      read (String.ofList (render version nonce ciphertext)) =
        .ok (version, nonce.bytes, ciphertext) := by
  have accepts : ∀ text version nonce ciphertext, read text = .ok (version, nonce, ciphertext) ↔
      ∃ spelling, IsSpelled text spelling version nonce ciphertext := by
    intro text version nonce ciphertext
    rw [read_eq_ok_iff]
    constructor
    · rintro ⟨parsed, hparse, rfl, holds⟩
      obtain ⟨spelling, hsplit⟩ := parse_eq_ok_iff.mp hparse
      exact ⟨spelling, hsplit.isSpelled holds⟩
    · rintro ⟨spelling, h⟩
      exact ⟨_, parse_eq_ok_iff.mpr ⟨spelling, h.isSplit⟩, rfl, rfl, rfl, h.length_eq⟩
  refine ⟨accepts, ?_, ?_, ?_⟩
  · intro text spelling version nonce ciphertext spelling' version' nonce' ciphertext' h h'
    exact h.unique h'
  · intro text text' spelling version nonce ciphertext h h'
    exact String.toList_inj.mp (h.text_eq.trans h'.text_eq.symm)
  · intro version nonce ciphertext h
    exact (accepts _ _ _ _).mpr ⟨_, isSpelled_render h nonce ciphertext⟩

/-- Version 7 with a sign and two zeros before it, and as it is written. -/
theorem read_iff_isSpelled_with_zeros :
    let nonce := Nonce.ofNat 5
    let text := String.ofList (['v', '+', '0', '0', '7'] ++ ':' ::
      (Text.Base64.encodeChars nonce.bytes ++ ':' :: Text.Base64.encodeChars [0]))
    let written := String.ofList (render 7 nonce [0])
    IsSpelled text ['+', '0', '0', '7'] 7 nonce.bytes [0] ∧ read text = .ok (7, nonce.bytes, [0]) ∧
      (∀ spelling version nonce' ciphertext, IsSpelled text spelling version nonce' ciphertext →
        ['+', '0', '0', '7'] = spelling ∧ 7 = version) ∧
      (∀ text', IsSpelled text' ['+', '0', '0', '7'] 7 nonce.bytes [0] → text = text') ∧
      (7 : UInt32) ≠ 0 ∧ read written = .ok (7, nonce.bytes, [0]) ∧ text ≠ written := by
  intro nonce text written
  have hnumeral : IsNumeral ['+', '0', '0', '7'] (7 : UInt32).toNat :=
    Text.Decimal.readWord?_eq_some_iff.mp (by decide)
  have spelled : IsSpelled text ['+', '0', '0', '7'] 7 nonce.bytes [0] :=
    ⟨String.toList_ofList, hnumeral, by decide, nonce.length_eq⟩
  have hseven : (7 : UInt32) ≠ 0 := by decide
  obtain ⟨accepts, unique, determined, reads⟩ := read_iff_isSpelled
  refine ⟨spelled, (accepts _ _ _ _).mpr ⟨_, spelled⟩, ?_, fun text' => determined _ _ _ _ _ _ spelled,
    hseven, reads 7 nonce [0] hseven, ?_⟩
  · intro spelling version nonce' ciphertext other
    obtain ⟨hspelling, hversion, -⟩ := unique _ _ _ _ _ _ _ _ _ spelled other
    exact ⟨hspelling, hversion⟩
  · intro hsame
    have hchars := congrArg String.toList hsame
    rw [String.toList_ofList, String.toList_ofList] at hchars
    exact absurd (congrArg (List.getD · 1 ' ') hchars) (by decide)

end Envelope

end ProfileGuard.Field
