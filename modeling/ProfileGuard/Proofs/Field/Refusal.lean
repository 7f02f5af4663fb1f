import ProfileGuard.Proofs.Field.Grammar
import ProfileGuard.Proofs.Field.Migration

/-!
# What a refusal gives away

A text that does not open is refused, and the error goes to logs and to callers.  It must not tell anything
about the keys.  Here is the refusal computed without them: the text says whether it is an envelope and of
which version, the loaded versions say whether that one is known, and all that is left after that is a seal that
does not fit, of which nothing is said.  So two encryptors that have the same versions loaded, and whose keys,
hash secrets and current versions may all differ, refuse a text with the same error.

* **`Field.Encryptor.refusal`** — the error, from a text and the loaded versions alone.
* **`Field.Encryptor.decrypt_refused`** / **`Field.Encryptor.reEncrypt_refused`** — no other error is given.
* **`Field.Encryptor.IsReachable`** — an encryptor at some point of its life.
* **`Field.Encryptor.refusals_agree`** — two encryptors with the same versions refuse a text alike.
-/

namespace ProfileGuard.Field

namespace Encryptor

/-- Whether a version is loaded. -/
def isLoaded (e : Encryptor) (version : UInt32) : Bool := (e.ring.keys.get? version).isSome

/-- Why a text is refused where these versions are loaded.  Of a seal that does not fit, nothing is said but
that. -/
def refusal (loaded : UInt32 → Bool) (text : String) : Error :=
  match Envelope.parse text with
  | .error error => error
  | .ok parsed =>
    if loaded parsed.version then
      match parsed.decode with
      | .error error => error
      | .ok _ => .decryptionFailed
    else .keyNotFound parsed.version

variable {e : Encryptor} {text : String} {nonce : Nonce} {error : Error} {plaintext : Bytes}
  {version : UInt32}

/-! ### No other error -/

/-- A text that does not open is refused for what it is, whatever the keys are. -/
theorem decrypt_refused (h : e.decrypt text = .error error) : error = refusal e.isLoaded text := by
  cases hparse : Envelope.parse text with
  | error reason =>
    rw [decrypt_of_not_parsed hparse] at h
    rw [refusal, hparse]
    exact (Except.error.inj h).symm
  | ok parsed =>
    cases hkey : e.ring.keys.get? parsed.version with
    | none =>
      have hloaded : e.isLoaded parsed.version = false := by rw [isLoaded, hkey]; rfl
      rw [decrypt_of_unknown hparse hkey] at h
      simp only [refusal, hparse, hloaded]
      exact (Except.error.inj h).symm
    | some key =>
      have hloaded : e.isLoaded parsed.version = true := by rw [isLoaded, hkey]; rfl
      cases hdecode : parsed.decode with
      | error reason =>
        rw [decrypt_of_not_decoded hparse hkey hdecode] at h
        simp only [refusal, hparse, hloaded, hdecode]
        exact (Except.error.inj h).symm
      | ok parts =>
        obtain ⟨nonce, ciphertext⟩ := parts
        rw [decrypt_of_decoded hparse hkey hdecode] at h
        simp only [refusal, hparse, hloaded, hdecode]
        -- the key is asked here only, and it has one error for everything
        cases hopen : key.decrypt nonce ciphertext with
        | error reason =>
          rw [hopen, key_decrypt_error hopen] at h
          exact (Except.error.inj h).symm
        | ok opened =>
          rw [hopen] at h
          cases h

/-- A text that does not open is not sealed again, for the same reason. -/
theorem reEncrypt_of_refused (nonce : Nonce) (h : e.decrypt text = .error error) :
    e.reEncrypt nonce text = .error error := by
  rw [reEncrypt, h]
  rfl

/-- Opening and sealing again is refused as opening is, or because the plaintext is too long to be sealed. -/
theorem reEncrypt_refused (sound : e.ring.Sound) (h : e.reEncrypt nonce text = .error error) :
    error = refusal e.isLoaded text ∨
      (¬ Envelope.FitsSealing text ∧ error = .encryptionFailed "cipher") := by
  cases hopen : e.decrypt text with
  | error reason =>
    rw [reEncrypt_of_refused nonce hopen] at h
    obtain rfl := Except.error.inj h
    exact .inl (decrypt_refused hopen)
  | ok opened =>
    obtain ⟨plaintext, version⟩ := opened
    have hseal : e.encrypt nonce plaintext = .error error := by
      rw [reEncrypt, hopen] at h
      exact h
    by_cases fits : Envelope.FitsSealing text
    · obtain ⟨key, -, hsealed⟩ := encrypt_eq_render sound nonce ((fitsSealing_iff hopen).mp fits)
      rw [hsealed] at hseal
      cases hseal
    · rw [encrypt_of_long sound nonce (Nat.lt_of_not_le (mt (fitsSealing_iff hopen).mpr fits))] at hseal
      exact .inr ⟨fits, (Except.error.inj hseal).symm⟩

/-! ### Two encryptors -/

/-- The encryptor was made, and has gone through some operations since, alone or inside a manager. -/
def IsReachable (e : Encryptor) : Prop :=
  ∃ made : Encryptor, made.IsMade ∧ ∃ (schedule : Rotation.Schedule) (began : Instant)
    (ops : List Rotation.Operation), e = ((Rotation.Manager.start made schedule began).performAll ops).encryptor

theorem IsReachable.sound (h : e.IsReachable) : e.ring.Sound := by
  obtain ⟨made, hmade, schedule, began, ops, rfl⟩ := h
  exact Rotation.Manager.performAll_sound _ ops hmade.sound

theorem mem_versions_iff : version ∈ e.versions ↔ e.isLoaded version = true := by
  rw [versions, KeyMap.versions, List.mem_map, isLoaded, KeyMap.get?, List.lookup_isSome_iff]
  constructor
  · rintro ⟨entry, hentry, rfl⟩
    exact ⟨entry, hentry, beq_self_eq_true _⟩
  · rintro ⟨entry, hentry, hversion⟩
    exact ⟨entry, hentry, (eq_of_beq hversion).symm⟩

/-- The same versions are loaded in two encryptors exactly if they list the same versions. -/
theorem isLoaded_congr {e₁ e₂ : Encryptor} (same : ∀ version, version ∈ e₁.versions ↔ version ∈ e₂.versions) :
    e₁.isLoaded = e₂.isLoaded := by
  funext version
  rw [Bool.eq_iff_iff, ← mem_versions_iff, ← mem_versions_iff]
  exact same version

/-- **A refusal tells nothing of the keys.**  Take two encryptors at any points of their lives that have the
same versions loaded; their keys, hash secrets and current versions may be what they like.  A text that opens
under neither is refused by both with the same error, whether it is only to be opened or also to be sealed again.
So is any text that neither opens and seals again, if what it holds is within the cipher's length limit for
sealing.  Of a longer one, up to sixteen bytes of which the cipher still opens, an encryptor may say that the
cipher failed, and nothing else. -/
theorem refusals_agree {e₁ e₂ : Encryptor} (reachable₁ : e₁.IsReachable) (reachable₂ : e₂.IsReachable)
    (same : ∀ version, version ∈ e₁.versions ↔ version ∈ e₂.versions) (text : String) :
    (∀ error₁ error₂, e₁.decrypt text = .error error₁ → e₂.decrypt text = .error error₂ →
      error₁ = error₂ ∧ ∀ nonce₁ nonce₂, e₁.reEncrypt nonce₁ text = .error error₁ ∧
        e₂.reEncrypt nonce₂ text = .error error₁) ∧
    ∀ nonce₁ nonce₂ error₁ error₂, e₁.reEncrypt nonce₁ text = .error error₁ →
      e₂.reEncrypt nonce₂ text = .error error₂ →
        (Envelope.FitsSealing text → error₁ = error₂) ∧
          (error₁ = error₂ ∨ error₁ = .encryptionFailed "cipher" ∨
            error₂ = .encryptionFailed "cipher") := by
  have hloaded : e₁.isLoaded = e₂.isLoaded := isLoaded_congr same
  constructor
  · intro error₁ error₂ h₁ h₂
    have heq : error₁ = error₂ := by rw [decrypt_refused h₁, decrypt_refused h₂, hloaded]
    refine ⟨heq, fun nonce₁ nonce₂ => ⟨reEncrypt_of_refused nonce₁ h₁, ?_⟩⟩
    rw [heq]
    exact reEncrypt_of_refused nonce₂ h₂
  · intro nonce₁ nonce₂ error₁ error₂ h₁ h₂
    rcases reEncrypt_refused reachable₁.sound h₁ with heq₁ | ⟨unfit, hcipher⟩
    · rcases reEncrypt_refused reachable₂.sound h₂ with heq₂ | ⟨unfit, hcipher⟩
      · have heq : error₁ = error₂ := by rw [heq₁, heq₂, hloaded]
        exact ⟨fun _ => heq, .inl heq⟩
      · exact ⟨fun fits => absurd fits unfit, .inr (.inr hcipher)⟩
    · exact ⟨fun fits => absurd fits unfit, .inr (.inl hcipher)⟩

/-- Two encryptors with other keys, other secrets and other current versions, one of them after a rotation, meet
an envelope that is well formed and was never sealed, one of a version that neither has, and one whose nonce is
too short. -/
theorem refusals_agree_after_rotation :
    let e₁ : Encryptor := ⟨⟨[(1, .ofNat 7), (2, .ofNat 8)], 1⟩, Bytes.ofText "one"⟩
    let made : Encryptor := ⟨⟨[(1, .ofNat 9)], 1⟩, Bytes.ofText "two"⟩
    let ops := [Rotation.Operation.rotate 5 (Key.ofNat 10).toBase64]
    let e₂ := ((Rotation.Manager.start made {} 0).performAll ops).encryptor
    e₁.IsReachable ∧ e₂.IsReachable ∧ (∀ version, version ∈ e₁.versions ↔ version ∈ e₂.versions) ∧
      e₁.current = 1 ∧ e₂.current = 2 ∧
      ∀ entry ∈ [("v2:AAAAAAAAAAAAAAAA:AAAA", Error.decryptionFailed),
          ("v3:AAAAAAAAAAAAAAAA:AAAA", .keyNotFound 3),
          ("v+1:AAAA:AAAA", .invalidCiphertext "invalid nonce length")],
        Envelope.FitsSealing entry.1 ∧ e₁.decrypt entry.1 = .error entry.2 ∧
          (∀ error, e₂.decrypt entry.1 = .error error → entry.2 = error) ∧
          e₁.reEncrypt (.ofNat 5) entry.1 = .error entry.2 ∧
          ∀ error, e₂.reEncrypt (.ofNat 6) entry.1 = .error error → entry.2 = error := by
  intro e₁ made ops e₂
  have reachable₁ : e₁.IsReachable := ⟨e₁, .inl ⟨e₁.ring.keys, 1, _, rfl⟩, {}, 0, [], rfl⟩
  have reachable₂ : e₂.IsReachable := ⟨made, .inl ⟨made.ring.keys, 1, _, rfl⟩, {}, 0, ops, rfl⟩
  have hversions : e₁.versions = e₂.versions := by decide +kernel
  have same : ∀ version, version ∈ e₁.versions ↔ version ∈ e₂.versions := by
    intro version
    rw [hversions]
  refine ⟨reachable₁, reachable₂, same, rfl, by decide +kernel, fun entry hentry => ?_⟩
  have refused : e₁.decrypt entry.1 = .error entry.2 := by
    simp only [List.mem_cons, List.not_mem_nil, or_false] at hentry
    rcases hentry with rfl | rfl | rfl <;> rfl
  have fits : Envelope.FitsSealing entry.1 := by
    simp only [List.mem_cons, List.not_mem_nil, or_false] at hentry
    rcases hentry with rfl | rfl | rfl <;> decide +kernel
  have refusedAgain := reEncrypt_of_refused (.ofNat 5) refused
  obtain ⟨opening, sealing⟩ := refusals_agree reachable₁ reachable₂ same entry.1
  exact ⟨fits, refused, fun error h => (opening _ error refused h).1, refusedAgain,
    fun error h => (sealing _ _ _ error refusedAgain h).1 fits⟩

end Encryptor

end ProfileGuard.Field
