import ProfileGuard.Field.Encryptor
import ProfileGuard.Proofs.Attempt
import ProfileGuard.Proofs.Field.Envelope

/-!
# Which texts open

Decryption looks at a text in four layers: the parts of the envelope, the key of its version, the bytes of
the parts, and the seal.  Each layer has an error of its own, and the first layer that finds something
wrong decides.  What passes all four is exactly what sealing makes of the plaintext: base64 is canonical, and
an authentic ciphertext is the encryption of what it decrypts to.

* **`Field.Envelope.Holds`** — the bytes that the parts of an envelope stand for.
* **`Field.Envelope.FitsCipher`** / **`Field.Envelope.FitsSealing`** — the text is within the cipher's length
  limits for opening and for sealing.
* **`Field.Encryptor.IsSealing`**, **`Field.Encryptor.NamesUnknown`**, **`Field.Encryptor.IsMalformed`** —
  what a text can be to an encryptor.
* **`Field.Encryptor.decrypt_verdict`** — every text is answered by what it is.
* **`Field.Encryptor.decrypt_classifies`** — each answer is given to its own kind of text only.
-/

namespace ProfileGuard.Field

namespace Envelope

/-- A part of an envelope is base64. -/
def IsBase64 (part : List Char) : Prop := ∃ bytes, part = Text.Base64.encodeChars bytes

/-- The last two parts are the base64 of a nonce and of a ciphertext. -/
structure Holds (parsed : Envelope) (nonce ciphertext : Bytes) : Prop where
  nonce_eq : parsed.nonce = Text.Base64.encodeChars nonce
  ciphertext_eq : parsed.ciphertext = Text.Base64.encodeChars ciphertext
  length_eq : nonce.length = 12

/-- One of the last two parts is not base64, or the nonce has not 12 bytes. -/
def IsBroken (parsed : Envelope) : Prop :=
  ¬ IsBase64 parsed.nonce ∨ ¬ IsBase64 parsed.ciphertext ∨
    ∃ nonce, parsed.nonce = Text.Base64.encodeChars nonce ∧ nonce.length ≠ 12

/-- The ciphertext in a text, if there is one, is not longer than what the cipher takes for opening: the
most bytes that are sealed at once, their tag, and the tag's length again. -/
def FitsCipher (text : String) : Prop :=
  ∀ parsed ciphertext, parse text = .ok parsed →
    parsed.ciphertext = Text.Base64.encodeChars ciphertext → ciphertext.length ≤ sealLimit + 32

/-- The ciphertext in a text, if there is one, holds no more than what is sealed at once. -/
def FitsSealing (text : String) : Prop :=
  ∀ parsed nonce ciphertext, parse text = .ok parsed → parsed.Holds nonce ciphertext →
    ciphertext.length ≤ sealLimit + 16

/-! ### The layers of an envelope -/

theorem readVersion_error {cs : List Char} {error : Error} (h : readVersion cs = .error error) :
    ∃ reason, error = .invalidCiphertext reason := by
  unfold readVersion at h
  split at h
  · split at h
    · split at h
      · exact ⟨_, (Except.error.inj h).symm⟩
      · cases h
    · exact ⟨_, (Except.error.inj h).symm⟩
  · exact ⟨_, (Except.error.inj h).symm⟩

theorem parse_error {text : String} {error : Error} (h : parse text = .error error) :
    ∃ reason, error = .invalidCiphertext reason := by
  unfold parse parseChars at h
  split at h
  · rename_i first nonce ciphertext _
    cases hversion : readVersion first with
    | error e =>
      rw [hversion] at h
      obtain rfl := Except.error.inj h
      exact readVersion_error hversion
    | ok version =>
      rw [hversion] at h
      cases h
  · exact ⟨_, (Except.error.inj h).symm⟩

/-- The parts are read as a nonce and a ciphertext, or one of them is wrong. -/
theorem decode_cases (parsed : Envelope) :
    (∃ nonce ciphertext, parsed.Holds nonce ciphertext ∧ parsed.decode = .ok (nonce, ciphertext)) ∨
      (parsed.IsBroken ∧ ∃ reason, parsed.decode = .error (.invalidCiphertext reason)) := by
  unfold decode
  split
  · rename_i hnonce
    refine .inr ⟨.inl ?_, _, rfl⟩
    rintro ⟨bytes, h⟩
    rw [Text.Base64.decodeChars?_eq_some_iff.mpr h] at hnonce
    cases hnonce
  · rename_i nonce hnonce
    have nonce_eq := Text.Base64.decodeChars?_eq_some_iff.mp hnonce
    split
    · rename_i hciphertext
      refine .inr ⟨.inr (.inl ?_), _, rfl⟩
      rintro ⟨bytes, h⟩
      rw [Text.Base64.decodeChars?_eq_some_iff.mpr h] at hciphertext
      cases hciphertext
    · rename_i ciphertext hciphertext
      have ciphertext_eq := Text.Base64.decodeChars?_eq_some_iff.mp hciphertext
      split
      · rename_i length_eq
        exact .inl ⟨nonce, ciphertext, ⟨nonce_eq, ciphertext_eq, length_eq⟩, rfl⟩
      · rename_i hlength
        exact .inr ⟨.inr (.inr ⟨nonce, nonce_eq, hlength⟩), _, rfl⟩

variable {parsed : Envelope} {nonce ciphertext : Bytes}

theorem Holds.decode (h : parsed.Holds nonce ciphertext) : parsed.decode = .ok (nonce, ciphertext) := by
  unfold Envelope.decode
  rw [h.nonce_eq, h.ciphertext_eq]
  simp only [Text.Base64.decodeChars?_encodeChars, if_pos h.length_eq]

theorem decode_eq_ok_iff :
    parsed.decode = .ok (nonce, ciphertext) ↔ parsed.Holds nonce ciphertext := by
  refine ⟨fun h => ?_, Holds.decode⟩
  rcases decode_cases parsed with ⟨_, _, holds, hdecode⟩ | ⟨-, reason, hdecode⟩
  · rw [hdecode] at h
    obtain ⟨rfl, rfl⟩ := Prod.mk.inj (Except.ok.inj h)
    exact holds
  · rw [hdecode] at h
    cases h

/-- An envelope whose parts hold a nonce and a ciphertext is not broken. -/
theorem Holds.not_isBroken (h : parsed.Holds nonce ciphertext) : ¬ parsed.IsBroken := by
  rintro (hnonce | hciphertext | ⟨other, hother, hlength⟩)
  · exact hnonce ⟨nonce, h.nonce_eq⟩
  · exact hciphertext ⟨ciphertext, h.ciphertext_eq⟩
  · have hsame := Text.Base64.decodeChars?_eq_some_iff.mpr (h.nonce_eq.symm.trans hother)
    rw [Text.Base64.decodeChars?_encodeChars] at hsame
    obtain rfl := Option.some.inj hsame
    exact hlength h.length_eq

theorem IsBroken.decode (h : parsed.IsBroken) :
    ∃ reason, parsed.decode = .error (.invalidCiphertext reason) := by
  rcases decode_cases parsed with ⟨nonce, ciphertext, holds, _⟩ | ⟨_, herror⟩
  · exact absurd h holds.not_isBroken
  · exact herror

end Envelope

namespace Encryptor

/-- The text is what sealing a plaintext under the loaded key of a version makes, with some nonce. -/
def IsSealing (e : Encryptor) (text : String) (plaintext : Bytes) (version : UInt32) : Prop :=
  ∃ parsed key nonce, Envelope.parse text = .ok parsed ∧ parsed.version = version ∧
    e.ring.keys.get? version = some key ∧
    parsed.Holds nonce (Cipher.Gcm.encrypt key.bytes nonce plaintext)

/-- The text names a version that is not loaded, whatever its other parts hold. -/
def NamesUnknown (e : Encryptor) (text : String) (version : UInt32) : Prop :=
  ∃ parsed, Envelope.parse text = .ok parsed ∧ parsed.version = version ∧
    e.ring.keys.get? version = none

/-- The text is no envelope, or one of a loaded version that is broken. -/
def IsMalformed (e : Encryptor) (text : String) : Prop :=
  (∃ error, Envelope.parse text = .error error) ∨
    ∃ parsed, Envelope.parse text = .ok parsed ∧ (e.ring.keys.get? parsed.version).isSome ∧
      parsed.IsBroken

variable {e : Encryptor} {text : String} {parsed : Envelope} {key : Key} {nonce ciphertext : Bytes}

/-! ### Each layer decides -/

theorem decrypt_of_not_parsed {error : Error} (h : Envelope.parse text = .error error) :
    e.decrypt text = .error error := by
  unfold decrypt
  rw [h]
  rfl

theorem decrypt_of_unknown (h : Envelope.parse text = .ok parsed)
    (hkey : e.ring.keys.get? parsed.version = none) :
    e.decrypt text = .error (.keyNotFound parsed.version) := by
  unfold decrypt
  rw [h]
  simp only [bind, Except.bind, hkey]
  rfl

theorem decrypt_of_not_decoded (h : Envelope.parse text = .ok parsed)
    (hkey : e.ring.keys.get? parsed.version = some key) {error : Error}
    (hdecode : parsed.decode = .error error) : e.decrypt text = .error error := by
  unfold decrypt
  rw [h]
  simp only [bind, Except.bind, hkey, hdecode]

theorem decrypt_of_decoded (h : Envelope.parse text = .ok parsed)
    (hkey : e.ring.keys.get? parsed.version = some key)
    (hdecode : parsed.decode = .ok (nonce, ciphertext)) :
    e.decrypt text = (key.decrypt nonce ciphertext).map (·, parsed.version) := by
  unfold decrypt
  rw [h]
  simp only [bind, Except.bind, hkey, hdecode]
  cases key.decrypt nonce ciphertext <;> rfl

/-- A key opens exactly what was sealed under it with the nonce. -/
theorem key_decrypt_cases (key : Key) (hnonce : nonce.length = 12)
    (fits : ciphertext.length ≤ sealLimit + 32) :
    (∃ plaintext, ciphertext = Cipher.Gcm.encrypt key.bytes nonce plaintext ∧
        key.decrypt nonce ciphertext = .ok plaintext) ∨
      ((∀ plaintext, ciphertext ≠ Cipher.Gcm.encrypt key.bytes nonce plaintext) ∧
        key.decrypt nonce ciphertext = .error .decryptionFailed) := by
  unfold Key.decrypt
  rw [if_neg (by omega)]
  cases hopen : Cipher.Gcm.decrypt? key.bytes nonce ciphertext with
  | some plaintext =>
    exact .inl ⟨plaintext, Cipher.Gcm.decrypt?_eq_some_iff.mp hopen, rfl⟩
  | none =>
    refine .inr ⟨fun plaintext h => ?_, rfl⟩
    rw [Cipher.Gcm.decrypt?_eq_some_iff.mpr h] at hopen
    cases hopen

/-! ### Each kind of text has its answer -/

theorem IsSealing.decrypt {plaintext : Bytes} {version : UInt32}
    (h : e.IsSealing text plaintext version) (fits : Envelope.FitsCipher text) :
    e.decrypt text = .ok (plaintext, version) := by
  obtain ⟨parsed, key, nonce, hparse, rfl, hkey, holds⟩ := h
  have hfits := fits parsed _ hparse holds.ciphertext_eq
  have hopen : key.decrypt nonce (Cipher.Gcm.encrypt key.bytes nonce plaintext) = .ok plaintext := by
    rw [Key.decrypt, if_neg (by rw [holds.length_eq]; omega), Cipher.Gcm.decrypt?_encrypt]
  rw [decrypt_of_decoded hparse hkey holds.decode, hopen]
  rfl

/-- What opens under a key was sealed under it. -/
theorem eq_encrypt_of_key_decrypt {plaintext : Bytes}
    (h : key.decrypt nonce ciphertext = .ok plaintext) :
    ciphertext = Cipher.Gcm.encrypt key.bytes nonce plaintext := by
  unfold Key.decrypt at h
  split at h
  · cases h
  · split at h
    · rename_i opened hopened
      obtain rfl := Except.ok.inj h
      exact Cipher.Gcm.decrypt?_eq_some_iff.mp hopened
    · cases h

/-- What opens is a sealing. -/
theorem isSealing_of_decrypt {plaintext : Bytes} {version : UInt32}
    (h : e.decrypt text = .ok (plaintext, version)) : e.IsSealing text plaintext version := by
  unfold Encryptor.decrypt at h
  obtain ⟨parsed, hparse, h⟩ := Attempt.bind_eq_ok_iff.mp h
  split at h
  · cases h
  · rename_i key hkey
    obtain ⟨⟨nonce, ciphertext⟩, hdecode, h⟩ := Attempt.bind_eq_ok_iff.mp h
    obtain ⟨opened, hopen, h⟩ := Attempt.bind_eq_ok_iff.mp h
    obtain ⟨rfl, rfl⟩ := Prod.mk.inj (Except.ok.inj h)
    refine ⟨parsed, key, nonce, hparse, rfl, hkey, ?_⟩
    rw [← eq_encrypt_of_key_decrypt hopen]
    exact Envelope.decode_eq_ok_iff.mp hdecode

/-- What opens can be sealed again exactly if the text is not too long for it. -/
theorem fitsSealing_iff {plaintext : Bytes} {version : UInt32}
    (h : e.decrypt text = .ok (plaintext, version)) :
    Envelope.FitsSealing text ↔ plaintext.length ≤ sealLimit := by
  obtain ⟨parsed, key, nonce, hparse, -, -, holds⟩ := isSealing_of_decrypt h
  constructor
  · intro fits
    have hlength := fits parsed nonce _ hparse holds
    rw [Cipher.Gcm.length_encrypt] at hlength
    exact Nat.le_of_add_le_add_right hlength
  · intro hle other nonce' ciphertext hother holds'
    obtain rfl := Except.ok.inj (hparse.symm.trans hother)
    have hsame := Except.ok.inj (holds.decode.symm.trans holds'.decode)
    rw [← (Prod.mk.inj hsame).2, Cipher.Gcm.length_encrypt]
    exact Nat.add_le_add_right hle 16

theorem NamesUnknown.decrypt {version : UInt32} (h : e.NamesUnknown text version) :
    e.decrypt text = .error (.keyNotFound version) := by
  obtain ⟨parsed, hparse, rfl, hkey⟩ := h
  exact decrypt_of_unknown hparse hkey

theorem IsMalformed.decrypt (h : e.IsMalformed text) :
    ∃ reason, e.decrypt text = .error (.invalidCiphertext reason) := by
  rcases h with ⟨error, hparse⟩ | ⟨parsed, hparse, hloaded, hbroken⟩
  · obtain ⟨reason, rfl⟩ := Envelope.parse_error hparse
    exact ⟨reason, decrypt_of_not_parsed hparse⟩
  · obtain ⟨key, hkey⟩ := Option.isSome_iff_exists.mp hloaded
    obtain ⟨reason, hdecode⟩ := hbroken.decode
    exact ⟨reason, decrypt_of_not_decoded hparse hkey hdecode⟩

/-- An answer, with what the text must be for it; the text of a failed opening is left open. -/
inductive Verdict (e : Encryptor) (text : String) : Except Error (Bytes × UInt32) → Prop where
  | malformed (reason : String) (h : e.IsMalformed text) :
      Verdict e text (.error (.invalidCiphertext reason))
  | unknown (version : UInt32) (h : e.NamesUnknown text version) :
      Verdict e text (.error (.keyNotFound version))
  | sealing (plaintext : Bytes) (version : UInt32) (h : e.IsSealing text plaintext version) :
      Verdict e text (.ok (plaintext, version))
  | failed : Verdict e text (.error .decryptionFailed)

/-- Every text is answered by what it is. -/
theorem decrypt_verdict (e : Encryptor) (fits : Envelope.FitsCipher text) :
    e.Verdict text (e.decrypt text) := by
  cases hparse : Envelope.parse text with
  | error error =>
    obtain ⟨reason, rfl⟩ := Envelope.parse_error hparse
    rw [decrypt_of_not_parsed hparse]
    exact .malformed reason (.inl ⟨_, hparse⟩)
  | ok parsed =>
    cases hkey : e.ring.keys.get? parsed.version with
    | none =>
      rw [decrypt_of_unknown hparse hkey]
      exact .unknown parsed.version ⟨parsed, hparse, rfl, hkey⟩
    | some key =>
      rcases Envelope.decode_cases parsed with
        ⟨nonce, ciphertext, holds, hdecode⟩ | ⟨hbroken, reason, hdecode⟩
      · rw [decrypt_of_decoded hparse hkey hdecode]
        have hfits := fits parsed ciphertext hparse holds.ciphertext_eq
        rcases key_decrypt_cases key holds.length_eq hfits with ⟨plaintext, rfl, hopen⟩ | ⟨_, hopen⟩
        · rw [hopen]
          exact .sealing plaintext parsed.version ⟨parsed, key, nonce, hparse, rfl, hkey, holds⟩
        · rw [hopen]
          exact .failed
      · rw [decrypt_of_not_decoded hparse hkey hdecode]
        exact .malformed reason (.inr ⟨parsed, hparse, by rw [hkey]; rfl, hbroken⟩)

/-- A ciphertext that has no room for a tag was never sealed. -/
theorem decrypt_of_short (hparse : Envelope.parse text = .ok parsed)
    (hloaded : (e.ring.keys.get? parsed.version).isSome) (holds : parsed.Holds nonce ciphertext)
    (short : ciphertext.length < 16) : e.decrypt text = .error .decryptionFailed := by
  obtain ⟨key, hkey⟩ := Option.isSome_iff_exists.mp hloaded
  have hfits : ciphertext.length ≤ sealLimit + 32 := by omega
  rcases key_decrypt_cases key holds.length_eq hfits with ⟨plaintext, rfl, _⟩ | ⟨_, hfailed⟩
  · rw [Cipher.Gcm.length_encrypt] at short
    omega
  · rw [decrypt_of_decoded hparse hkey holds.decode, hfailed]
    rfl

/-- **Decryption accepts exactly what was sealed, and says of every other text what is wrong with it.**
A text opens to a plaintext and a version exactly if it is a sealing of that plaintext under the loaded key
of that version.  A version that is not loaded is reported whatever the other parts hold, a text that is no
envelope or a broken one of a loaded version is reported as such, and every other text fails to open;
among them are those whose ciphertext is shorter than a tag. -/
theorem decrypt_classifies (e : Encryptor) (text : String) (fits : Envelope.FitsCipher text) :
    (∀ plaintext version, e.decrypt text = .ok (plaintext, version) ↔
      e.IsSealing text plaintext version) ∧
    (∀ version, e.decrypt text = .error (.keyNotFound version) ↔ e.NamesUnknown text version) ∧
    ((∃ reason, e.decrypt text = .error (.invalidCiphertext reason)) ↔ e.IsMalformed text) ∧
    (e.decrypt text = .error .decryptionFailed ↔
      (∀ plaintext version, ¬ e.IsSealing text plaintext version) ∧
        (∀ version, ¬ e.NamesUnknown text version) ∧ ¬ e.IsMalformed text) ∧
    (∀ parsed nonce ciphertext, Envelope.parse text = .ok parsed →
      (e.ring.keys.get? parsed.version).isSome → parsed.Holds nonce ciphertext →
      ciphertext.length < 16 → e.decrypt text = .error .decryptionFailed) := by
  have verdict := decrypt_verdict e fits
  refine ⟨fun plaintext version => ⟨fun h => ?_, fun h => h.decrypt fits⟩,
    fun version => ⟨fun h => ?_, fun h => h.decrypt⟩, ⟨fun ⟨reason, h⟩ => ?_, fun h => h.decrypt⟩,
    ⟨fun h => ⟨?_, ?_, ?_⟩, fun ⟨noSealing, noUnknown, noMalformed⟩ => ?_⟩,
    fun parsed nonce ciphertext hparse hloaded holds => decrypt_of_short hparse hloaded holds⟩
  · rw [h] at verdict
    cases verdict
    assumption
  · rw [h] at verdict
    cases verdict
    assumption
  · rw [h] at verdict
    cases verdict
    assumption
  · intro plaintext version hsealing
    rw [hsealing.decrypt fits] at h
    cases h
  · intro version hunknown
    rw [hunknown.decrypt] at h
    cases h
  · intro hmalformed
    obtain ⟨_, hanswer⟩ := hmalformed.decrypt
    rw [hanswer] at h
    cases h
  · generalize e.decrypt text = answer at verdict ⊢
    cases verdict with
    | malformed reason h => exact absurd h noMalformed
    | unknown version h => exact absurd h (noUnknown version)
    | sealing plaintext version h => exact absurd h (noSealing plaintext version)
    | failed => rfl

/-- A sealing whose version is written with a sign opens; a text of the same version with a ciphertext of one
byte does not. -/
theorem decrypt_classifies_signed_version :
    let key := Key.ofNat 7
    let e : Encryptor := ⟨⟨[(1, key)], 1⟩, []⟩
    let nonce := Nonce.ofNat 5
    let plaintext := Bytes.ofText "jane@example.com"
    let sealed := Cipher.Gcm.encrypt key.bytes nonce.bytes plaintext
    let text (ciphertext : Bytes) := String.ofList (['v', '+', '1'] ++ ':' ::
      (Text.Base64.encodeChars nonce.bytes ++ ':' :: Text.Base64.encodeChars ciphertext))
    Envelope.FitsCipher (text sealed) ∧ e.decrypt (text sealed) = .ok (plaintext, 1) ∧
      Envelope.FitsCipher (text [0]) ∧ e.decrypt (text [0]) = .error .decryptionFailed := by
  intro key e nonce plaintext sealed text
  have hparse : ∀ ciphertext, Envelope.parse (text ciphertext)
      = .ok ⟨1, Text.Base64.encodeChars nonce.bytes, Text.Base64.encodeChars ciphertext⟩ := by
    intro ciphertext
    have hversion : ∀ c ∈ ['v', '+', '1'], c ≠ ':' := by simp
    rw [Envelope.parse, String.toList_ofList, Envelope.parseChars, threeParts?_append hversion
      fun _ => Text.Base64.ne_colon_of_mem_encodeChars]
    rfl
  have fits : ∀ ciphertext : Bytes, ciphertext.length ≤ sealLimit + 32 →
      Envelope.FitsCipher (text ciphertext) := by
    intro ciphertext hlength parsed given hparsed hgiven
    rw [hparse ciphertext] at hparsed
    obtain rfl := Except.ok.inj hparsed
    have hsame := Text.Base64.decodeChars?_eq_some_iff.mpr hgiven
    rw [Text.Base64.decodeChars?_encodeChars] at hsame
    obtain rfl := Option.some.inj hsame
    exact hlength
  have holds : ∀ ciphertext, Envelope.Holds ⟨1, Text.Base64.encodeChars nonce.bytes,
      Text.Base64.encodeChars ciphertext⟩ nonce.bytes ciphertext :=
    fun ciphertext => ⟨rfl, rfl, nonce.length_eq⟩
  have fitsSealed : Envelope.FitsCipher (text sealed) := by
    refine fits sealed ?_
    rw [Cipher.Gcm.length_encrypt]
    decide
  have fitsShort : Envelope.FitsCipher (text [0]) := fits [0] (by decide)
  obtain ⟨opens, -⟩ := decrypt_classifies e (text sealed) fitsSealed
  obtain ⟨-, -, -, -, short⟩ := decrypt_classifies e (text [0]) fitsShort
  exact ⟨fitsSealed, (opens plaintext 1).mpr ⟨_, key, nonce.bytes, hparse sealed, rfl, rfl, holds sealed⟩,
    fitsShort, short _ nonce.bytes [0] (hparse [0]) rfl (holds [0]) (by decide)⟩

end Encryptor

end ProfileGuard.Field
