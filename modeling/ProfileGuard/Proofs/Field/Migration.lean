import ProfileGuard.Proofs.Attempt
import ProfileGuard.Proofs.Field.Lifetime
import ProfileGuard.Proofs.Field.Opening

/-!
# Moving envelopes to the current key

Old envelopes stay readable, so they are moved to the current key one by one, whenever somebody comes by them:
those that are reported to need it are opened and sealed again.  Between these two steps the key ring may
change.  An envelope that was moved needs it again only when the current version has gone beyond the one it was
sealed under.

The report looks at the version alone.  So it misses an envelope of a version that is not older than the current
one and whose other parts are no base64, although decryption calls such a text malformed.

* **`Field.Encryptor.needsReEncryption_iff`** — what is reported about a text that opens.
* **`Rotation.Manager.reEncryptAcross`** — a text is opened and sealed again, with other operations in between.
* **`Rotation.Manager.reEncryption_converges`** — what comes of that, whatever is done before, in between and
  after.
* **`Field.Encryptor.unreported_iff`** — which malformed texts are not reported.
-/

namespace ProfileGuard

namespace Field.Encryptor

variable {e : Encryptor} {text : String} {parsed : Envelope} {plaintext : Bytes} {version : UInt32}

/-! ### What is reported -/

theorem needsReEncryption_of_parsed (h : Envelope.parse text = .ok parsed) :
    e.needsReEncryption text = true ↔ parsed.version < e.current := by
  rw [needsReEncryption, h]
  exact decide_eq_true_iff

theorem needsReEncryption_of_not_parsed {error : Error} (h : Envelope.parse text = .error error) :
    e.needsReEncryption text = true := by
  rw [needsReEncryption, h]

/-- A text that opens names the version that it opens under. -/
theorem exists_parsed_of_decrypt (h : e.decrypt text = .ok (plaintext, version)) :
    ∃ parsed, Envelope.parse text = .ok parsed ∧ parsed.version = version := by
  unfold decrypt at h
  obtain ⟨parsed, hparse, h⟩ := Attempt.bind_eq_ok_iff.mp h
  refine ⟨parsed, hparse, ?_⟩
  split at h
  · cases h
  · obtain ⟨⟨nonce, ciphertext⟩, -, h⟩ := Attempt.bind_eq_ok_iff.mp h
    obtain ⟨opened, -, h⟩ := Attempt.bind_eq_ok_iff.mp h
    exact (Prod.mk.inj (Except.ok.inj h)).2

/-- A text that opens is reported exactly if it was sealed under an older version. -/
theorem needsReEncryption_iff (h : e.decrypt text = .ok (plaintext, version)) :
    e.needsReEncryption text = true ↔ version < e.current := by
  obtain ⟨parsed, hparse, rfl⟩ := exists_parsed_of_decrypt h
  exact needsReEncryption_of_parsed hparse

/-- A plaintext beyond the limit of the cipher is not sealed. -/
theorem encrypt_of_long (sound : e.ring.Sound) (nonce : Nonce) (long : sealLimit < plaintext.length) :
    e.encrypt nonce plaintext = .error (.encryptionFailed "cipher") := by
  obtain ⟨key, -, hsealed⟩ := encrypt_eq sound nonce plaintext
  rw [hsealed, Key.encrypt, if_neg (Nat.not_le.mpr long)]
  rfl

/-! ### What is malformed -/

theorem key_decrypt_error {key : Key} {nonce ciphertext : Bytes} {error : Error}
    (h : key.decrypt nonce ciphertext = .error error) : error = .decryptionFailed := by
  unfold Key.decrypt at h
  split at h
  · exact (Except.error.inj h).symm
  · split at h
    · cases h
    · exact (Except.error.inj h).symm

/-- Decryption calls a text malformed exactly if it is no envelope, or a broken one of a loaded version. -/
theorem isMalformed_iff :
    (∃ reason, e.decrypt text = .error (.invalidCiphertext reason)) ↔ e.IsMalformed text := by
  refine ⟨fun ⟨reason, h⟩ => ?_, IsMalformed.decrypt⟩
  cases hparse : Envelope.parse text with
  | error error => exact .inl ⟨error, hparse⟩
  | ok parsed =>
    cases hkey : e.ring.keys.get? parsed.version with
    | none =>
      rw [decrypt_of_unknown hparse hkey] at h
      cases h
    | some key =>
      rcases Envelope.decode_cases parsed with ⟨nonce, ciphertext, -, hdecode⟩ | ⟨hbroken, -⟩
      · -- what was decoded can only fail to open
        rw [decrypt_of_decoded hparse hkey hdecode] at h
        cases hopen : key.decrypt nonce ciphertext with
        | error error =>
          rw [hopen, key_decrypt_error hopen] at h
          cases h
        | ok opened =>
          rw [hopen] at h
          cases h
      · exact .inr ⟨parsed, hparse, by rw [hkey]; rfl, hbroken⟩

/-- **Which malformed texts are not reported.**  Of the texts that decryption calls malformed, the report
misses the broken envelopes of a loaded version that is not older than the current one, and no others. -/
theorem unreported_iff (e : Encryptor) (text : String) :
    (∃ reason, e.decrypt text = .error (.invalidCiphertext reason)) ∧
        e.needsReEncryption text = false ↔
      ∃ parsed, Envelope.parse text = .ok parsed ∧ (e.ring.keys.get? parsed.version).isSome ∧
        parsed.IsBroken ∧ e.current ≤ parsed.version := by
  rw [isMalformed_iff, ← Bool.not_eq_true]
  constructor
  · rintro ⟨⟨error, hparse⟩ | ⟨parsed, hparse, hloaded, hbroken⟩, hreport⟩
    · exact absurd (needsReEncryption_of_not_parsed hparse) hreport
    · rw [needsReEncryption_of_parsed hparse] at hreport
      exact ⟨parsed, hparse, hloaded, hbroken, UInt32.not_lt.mp hreport⟩
  · rintro ⟨parsed, hparse, hloaded, hbroken, hcurrent⟩
    refine ⟨.inr ⟨parsed, hparse, hloaded, hbroken⟩, ?_⟩
    rw [needsReEncryption_of_parsed hparse]
    exact UInt32.not_lt.mpr hcurrent

/-- An envelope of the current version whose nonce is no base64 is malformed, and is not reported. -/
theorem broken_current_unreported :
    let key : Key := ⟨List.replicate 32 1, rfl⟩
    let e : Encryptor := ⟨⟨[(1, key)], 1⟩, Bytes.ofText "0123456789abcdef0123456789abcdef"⟩
    e.IsMade ∧
      e.decrypt "v1:!!!:def" = .error (.invalidCiphertext "nonce is not valid base64") ∧
      e.needsReEncryption "v1:!!!:def" = false := by
  intro key e
  exact ⟨.inl ⟨[(1, key)], 1, _, rfl⟩, rfl, rfl⟩

end Field.Encryptor

namespace Rotation.Manager

/-- A text is opened and sealed again, with operations between the two steps. -/
def reEncryptAcross (m : Manager) (between : List Operation) (nonce : Field.Nonce) (text : String) :
    Except Field.Error String := do
  let (plaintext, _) ← m.encryptor.decrypt text
  (m.performAll between).encryptor.encrypt nonce plaintext

variable {m : Manager} {between : List Operation} {nonce : Field.Nonce} {text : String}
  {plaintext : Bytes} {version : UInt32}

theorem reEncryptAcross_of_error {error : Field.Error} (h : m.encryptor.decrypt text = .error error) :
    m.reEncryptAcross between nonce text = .error error := by
  rw [reEncryptAcross, h]
  rfl

theorem reEncryptAcross_of_ok (h : m.encryptor.decrypt text = .ok (plaintext, version)) :
    m.reEncryptAcross between nonce text = (m.performAll between).encryptor.encrypt nonce plaintext := by
  rw [reEncryptAcross, h]
  rfl

/-- What is sealed opens ever after, and is reported once the current version has gone beyond its own. -/
theorem sealed_stays (sound : m.encryptor.ring.Sound) (nonce : Field.Nonce)
    (fits : plaintext.length ≤ Field.sealLimit) :
    ∃ envelope, m.encryptor.encrypt nonce plaintext = .ok envelope ∧
      ∀ after, let last := m.performAll after
        last.encryptor.decrypt envelope = .ok (plaintext, m.encryptor.current) ∧
          (last.encryptor.needsReEncryption envelope = true ↔
            m.encryptor.current < last.encryptor.current) := by
  obtain ⟨key, hkey, hsealed⟩ := Field.Encryptor.encrypt_eq_render sound nonce fits
  refine ⟨_, hsealed, fun after => ?_⟩
  have hopens := Field.Encryptor.decrypt_render sound.current_ne_zero
    (performAll_extends m after _ key hkey) nonce fits
  exact ⟨hopens, Field.Encryptor.needsReEncryption_iff hopens⟩

/-- **Moving envelopes converges and keeps what they hold.**  Along every life of an encryptor: a text that
opens is reported exactly if its version is older than the current one.  It is opened and sealed again whatever
is done between the two steps, into an envelope that from then on opens to the same plaintext, under the version
current when it was sealed, and that is reported only while the current version is beyond that one.  What the
text holds must be within the cipher's length limit for sealing, and a longer one is refused.  A text that does
not open is not sealed again, for the same reason. -/
theorem reEncryption_converges {e : Field.Encryptor} (made : e.IsMade) (schedule : Schedule)
    (began : Instant) (before : List Operation) (text : String) :
    let m := (start e schedule began).performAll before
    (∀ nonce, (m.perform (.reEncrypt nonce text)).2 = .sealed (m.reEncryptAcross [] nonce text)) ∧
    (∀ plaintext version, m.encryptor.decrypt text = .ok (plaintext, version) →
      (m.encryptor.needsReEncryption text = true ↔ version < m.encryptor.current) ∧
      ∀ between nonce,
        let later := m.performAll between
        (Field.Envelope.FitsSealing text →
          ∃ envelope, m.reEncryptAcross between nonce text = .ok envelope ∧
            ∀ after, let last := later.performAll after
              last.encryptor.decrypt envelope = .ok (plaintext, later.encryptor.current) ∧
                (last.encryptor.needsReEncryption envelope = true ↔
                  later.encryptor.current < last.encryptor.current)) ∧
        (¬ Field.Envelope.FitsSealing text →
          m.reEncryptAcross between nonce text = .error (.encryptionFailed "cipher"))) ∧
    ∀ error, m.encryptor.decrypt text = .error error →
      ∀ between nonce, m.reEncryptAcross between nonce text = .error error := by
  intro m
  have sound : m.encryptor.ring.Sound := performAll_sound _ before made.sound
  refine ⟨fun nonce => rfl, ?_, fun error h between nonce => reEncryptAcross_of_error h⟩
  intro plaintext version hopens
  refine ⟨Field.Encryptor.needsReEncryption_iff hopens, fun between nonce => ?_⟩
  have later : (m.performAll between).encryptor.ring.Sound := performAll_sound m between sound
  rw [reEncryptAcross_of_ok hopens, Field.Encryptor.fitsSealing_iff hopens, Nat.not_le]
  exact ⟨sealed_stays later nonce, Field.Encryptor.encrypt_of_long later nonce⟩

/-- An envelope of version 1, moved while version 2 is current and a key change to version 3 comes between the
two steps; then back to version 1, and on to version 4. -/
theorem reEncryption_converges_through_rotation :
    let key := Field.Key.ofNat 7
    let e : Field.Encryptor := ⟨⟨[(1, key)], 1⟩, []⟩
    let before := [Operation.addKey 2 (.ofNat 8), .setCurrent 2]
    let between := [Operation.rotate 3 (Field.Key.ofNat 9).toBase64]
    let plaintext := Bytes.ofText "jane@example.com"
    let text := String.ofList (Field.Envelope.render 1 (.ofNat 5)
      (Cipher.Gcm.encrypt key.bytes (Field.Nonce.ofNat 5).bytes plaintext))
    let m := (start e {} 0).performAll before
    let later := m.performAll between
    let back := later.performAll [.setCurrent 1]
    let onward := later.performAll [.rotate 4 (Field.Key.ofNat 10).toBase64]
    e.IsMade ∧ m.encryptor.decrypt text = .ok (plaintext, 1) ∧ Field.Envelope.FitsSealing text ∧
      m.encryptor.needsReEncryption text = true ∧
      ∃ envelope, m.reEncryptAcross between (.ofNat 6) text = .ok envelope ∧
        back.encryptor.decrypt envelope = .ok (plaintext, 3) ∧
        back.encryptor.needsReEncryption envelope = false ∧
        onward.encryptor.decrypt envelope = .ok (plaintext, 3) ∧
        onward.encryptor.needsReEncryption envelope = true ∧
      m.encryptor.decrypt "v9:x:y" = .error (.keyNotFound 9) ∧
      m.reEncryptAcross between (.ofNat 6) "v9:x:y" = .error (.keyNotFound 9) := by
  intro key e before between plaintext text m later back onward
  have made : e.IsMade := .inl ⟨[(1, key)], 1, [], rfl⟩
  have short : plaintext.length ≤ Field.sealLimit := by decide
  have loaded : m.encryptor.ring.keys.get? 1 = some key := by decide +kernel
  have opens : m.encryptor.decrypt text = .ok (plaintext, 1) :=
    Field.Encryptor.decrypt_render (by decide) loaded (.ofNat 5) short
  have fits : Field.Envelope.FitsSealing text := (Field.Encryptor.fitsSealing_iff opens).mpr short
  have third : later.encryptor.current = 3 := by decide +kernel
  obtain ⟨-, converges, -⟩ := reEncryption_converges made {} 0 before text
  obtain ⟨reported, moves⟩ := converges plaintext 1 opens
  obtain ⟨envelope, moved, stays⟩ := (moves between (.ofNat 6)).1 fits
  obtain ⟨-, -, refuses⟩ := reEncryption_converges made {} 0 before "v9:x:y"
  have unknown : m.encryptor.decrypt "v9:x:y" = .error (.keyNotFound 9) := rfl
  rw [third] at stays
  refine ⟨made, opens, fits, reported.mpr (by decide +kernel), envelope, moved,
    (stays [.setCurrent 1]).1, ?_, (stays _).1, (stays _).2.mpr (by decide +kernel), unknown,
    refuses _ unknown between (.ofNat 6)⟩
  rw [← Bool.not_eq_true, (stays [.setCurrent 1]).2]
  decide +kernel

end Rotation.Manager

end ProfileGuard
