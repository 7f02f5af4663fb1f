import ProfileGuard.Field.Envelope
import ProfileGuard.Proofs.Text.Base64

/-!
# Envelopes read back

The three parts of a written envelope hold no colon but the two that part them, so reading finds the
version, the nonce and the ciphertext that were written.

* **`Field.Envelope.parseChars_render`** / **`Field.Envelope.decode_render`** — the two stages of
  reading, on a written envelope.
* **`Field.Envelope.text_prefix`** — how a written envelope begins.
-/

namespace ProfileGuard.Field

/-! ### Parts between colons -/

theorem splitColon?_append {before : List Char} (h : ∀ c ∈ before, c ≠ ':') (after : List Char) :
    splitColon? (before ++ ':' :: after) = some (before, after) := by
  induction before with
  | nil => simp [splitColon?]
  | cons c cs ih =>
    have hc : c ≠ ':' := h c (by simp)
    have hcs : ∀ d ∈ cs, d ≠ ':' := fun d hd => h d (by simp [hd])
    rw [List.cons_append, splitColon?, if_neg hc, ih hcs]
    rfl

theorem ne_colon_of_mem_chars {n : Nat} {c : Char} (h : c ∈ Text.Decimal.chars n) : c ≠ ':' := by
  have hdigit := List.all_eq_true.mp (Text.Decimal.all_isDigit_chars n) c h
  intro hc
  rw [hc] at hdigit
  exact absurd hdigit (by decide)

/-- A 32-bit number in decimal reads back. -/
theorem readWord?_chars (n : UInt32) :
    Text.Decimal.readWord? (Text.Decimal.chars n.toNat) = some n := by
  rw [Text.Decimal.readWord?, Text.Decimal.read?_chars n.toNat_lt, Option.map_some,
    UInt32.ofNat_toNat]

/-- Two parts without a colon, and whatever follows them. -/
theorem threeParts?_append {first second : List Char} (hfirst : ∀ c ∈ first, c ≠ ':')
    (hsecond : ∀ c ∈ second, c ≠ ':') (third : List Char) :
    threeParts? (first ++ ':' :: (second ++ ':' :: third)) = some (first, second, third) := by
  simp only [threeParts?, splitColon?_append hfirst, splitColon?_append hsecond,
    Option.bind_eq_bind, Option.bind_some]
  rfl

namespace Envelope

theorem threeParts?_render (version : UInt32) (nonce : Nonce) (ciphertext : Bytes) :
    threeParts? (render version nonce ciphertext)
      = some ('v' :: Text.Decimal.chars version.toNat, Text.Base64.encodeChars nonce.bytes,
          Text.Base64.encodeChars ciphertext) := by
  have hfirst : ∀ c ∈ 'v' :: Text.Decimal.chars version.toNat, c ≠ ':' := by
    intro c hc
    rcases List.mem_cons.mp hc with rfl | hc
    · decide
    · exact ne_colon_of_mem_chars hc
  have hsecond : ∀ c ∈ Text.Base64.encodeChars nonce.bytes, c ≠ ':' :=
    fun _ => Text.Base64.ne_colon_of_mem_encodeChars
  have hrender : render version nonce ciphertext
      = ('v' :: Text.Decimal.chars version.toNat) ++ ':' :: (Text.Base64.encodeChars nonce.bytes ++
          ':' :: Text.Base64.encodeChars ciphertext) := by
    simp [render]
  rw [hrender, threeParts?_append hfirst hsecond]

theorem readVersion_chars {version : UInt32} (h : version ≠ 0) :
    readVersion ('v' :: Text.Decimal.chars version.toNat) = .ok version := by
  simp only [readVersion, readWord?_chars, if_neg h]

/-- A written envelope is read as its version and the base64 of its parts. -/
theorem parseChars_render {version : UInt32} (h : version ≠ 0) (nonce : Nonce)
    (ciphertext : Bytes) :
    parseChars (render version nonce ciphertext)
      = .ok ⟨version, Text.Base64.encodeChars nonce.bytes, Text.Base64.encodeChars ciphertext⟩ := by
  simp only [parseChars, threeParts?_render, readVersion_chars h]
  rfl

/-- The parts of a written envelope hold the bytes that were written. -/
theorem decode_render (version : UInt32) (nonce : Nonce) (ciphertext : Bytes) :
    decode ⟨version, Text.Base64.encodeChars nonce.bytes, Text.Base64.encodeChars ciphertext⟩
      = .ok (nonce.bytes, ciphertext) := by
  simp only [decode, Text.Base64.decodeChars?_encodeChars, nonce.length_eq, if_true]

/-- A written envelope begins with `v`, its version and a colon. -/
theorem text_prefix (version : UInt32) (nonce : Nonce) (ciphertext : Bytes) :
    ∃ rest, String.ofList (render version nonce ciphertext)
      = "v" ++ Text.Decimal.text version.toNat ++ ":" ++ rest := by
  refine ⟨String.ofList (Text.Base64.encodeChars nonce.bytes ++ ':' ::
    Text.Base64.encodeChars ciphertext), ?_⟩
  apply String.ext
  simp [render, Text.Decimal.text]

end Envelope

end ProfileGuard.Field
