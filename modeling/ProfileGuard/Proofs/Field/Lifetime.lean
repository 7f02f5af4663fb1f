import ProfileGuard.Rotation.Manager
import ProfileGuard.Proofs.Attempt
import ProfileGuard.Proofs.Field.Envelope
import ProfileGuard.Proofs.Field.KeyRing

/-!
# Envelopes along the life of an encryptor

An encryptor, alone or inside a manager, is used by one operation after another.  Operations that fail
are part of such a life: they leave everything as it was.  Whatever is done, a loaded key stays under
its version, so an envelope that was once written opens ever after.

* **`Rotation.Operation`** / **`Rotation.Manager.perform`** — an operation, and what it changes and
  answers.
* **`Rotation.Manager.performAll`** — operations one after another.
* **`Rotation.Manager.performAll_extends`** / **`Rotation.Manager.performAll_sound`** — the two facts
  about a key ring that no operation breaks.
* **`Field.Encryptor.decrypt_render`** — decryption under any ring that holds the key.
* **`Rotation.Manager.decrypt_of_sealed`** — what was sealed opens at every later point.
-/

namespace ProfileGuard

namespace Field.Encryptor

/-- The encryptor was made from a key map, or from keys written in base64. -/
def IsMade (e : Encryptor) : Prop :=
  (∃ keys current secret, make keys current secret = .ok e) ∨
    ∃ texts current secret, ofBase64 texts current secret = .ok e

/-! ### Making and changing an encryptor -/

/-- A ring put into an encryptor in place of its own. -/
theorem ring_of_ok {x : Except Error KeyRing} {e later : Encryptor}
    (h : (do return { e with ring := ← x } : Except Error Encryptor) = .ok later) :
    x = .ok later.ring := by
  obtain ⟨ring, hring, h⟩ := Attempt.bind_eq_ok_iff.mp h
  obtain rfl := Except.ok.inj h
  exact hring

theorem make_sound {keys : KeyMap} {current : UInt32} {secret : Bytes} {e : Encryptor}
    (h : make keys current secret = .ok e) : e.ring.Sound := by
  obtain ⟨ring, hring, h⟩ := Attempt.bind_eq_ok_iff.mp h
  obtain rfl := Except.ok.inj h
  exact (KeyRing.make_spec hring).2

theorem IsMade.sound {e : Encryptor} (h : e.IsMade) : e.ring.Sound := by
  rcases h with ⟨keys, current, secret, h⟩ | ⟨texts, current, secret, h⟩
  · exact make_sound h
  · obtain ⟨keys, -, h⟩ := Attempt.bind_eq_ok_iff.mp h
    exact make_sound h

/-! ### Sealing and opening -/

/-- Any ring that holds the key opens what was sealed under it. -/
theorem decrypt_render {e : Encryptor} {version : UInt32} {key : Key}
    (hversion : version ≠ 0) (hkey : e.ring.keys.get? version = some key) (nonce : Nonce)
    {plaintext : Bytes} (hfits : plaintext.length ≤ sealLimit) :
    e.decrypt (String.ofList (Envelope.render version nonce
      (Cipher.Gcm.encrypt key.bytes nonce.bytes plaintext))) = .ok (plaintext, version) := by
  have hlength : (Cipher.Gcm.encrypt key.bytes nonce.bytes plaintext).length
      = plaintext.length + 16 := by
    rw [Cipher.Gcm.encrypt, Cipher.Gcm.encryptWith, List.length_append, Cipher.Gcm.length_crypt,
      Cipher.Gcm.length_tag]
  have hopen : key.decrypt nonce.bytes (Cipher.Gcm.encrypt key.bytes nonce.bytes plaintext)
      = .ok plaintext := by
    rw [Key.decrypt, if_neg, Cipher.Gcm.decrypt?_encrypt]
    rw [nonce.length_eq, hlength]
    omega
  unfold decrypt Envelope.parse
  rw [String.toList_ofList, Envelope.parseChars_render hversion]
  simp only [bind, Except.bind, hkey, Envelope.decode_render, hopen]
  rfl

/-- A sound ring seals with the key of its current version, and a failure is the failure of that key. -/
theorem encrypt_eq {e : Encryptor} (h : e.ring.Sound) (nonce : Nonce) (plaintext : Bytes) :
    ∃ key, e.ring.keys.get? e.current = some key ∧
      e.encrypt nonce plaintext = (key.encrypt nonce plaintext).map fun ciphertext =>
        String.ofList (Envelope.render e.current nonce ciphertext) := by
  obtain ⟨key, hkey⟩ := Option.isSome_iff_exists.mp h.current
  refine ⟨key, hkey, ?_⟩
  unfold encrypt
  rw [show e.ring.keys.get? e.current = some key from hkey]
  show (do
    let ciphertext ← key.encrypt nonce plaintext
    return String.ofList (Envelope.render e.current nonce ciphertext)) = _
  cases key.encrypt nonce plaintext <;> rfl

/-- A sound ring seals every plaintext that is short enough, under its current version. -/
theorem encrypt_eq_render {e : Encryptor} (h : e.ring.Sound) (nonce : Nonce) {plaintext : Bytes}
    (hfits : plaintext.length ≤ sealLimit) :
    ∃ key, e.ring.keys.get? e.current = some key ∧
      e.encrypt nonce plaintext = .ok (String.ofList (Envelope.render e.current nonce
        (Cipher.Gcm.encrypt key.bytes nonce.bytes plaintext))) := by
  obtain ⟨key, hkey, hsealed⟩ := encrypt_eq h nonce plaintext
  refine ⟨key, hkey, ?_⟩
  rw [hsealed, Key.encrypt, if_pos hfits]
  rfl

end Field.Encryptor

namespace Rotation

/-! ### Operations -/

/-- What can be asked of an encryptor, alone or inside a manager. -/
inductive Operation where
  | encrypt (nonce : Field.Nonce) (plaintext : Bytes)
  | encryptText (nonce : Field.Nonce) (text : String)
  | decrypt (envelope : String)
  | reEncrypt (nonce : Field.Nonce) (envelope : String)
  | addKey (version : UInt32) (key : Field.Key)
  | setCurrent (version : UInt32)
  /-- A key written in base64 becomes the current one. -/
  | rotate (now : Instant) (key : String)

/-- The plaintext that an operation is given to seal. -/
def Operation.plaintext? : Operation → Option Bytes
  | encrypt _ plaintext => some plaintext
  | encryptText _ text => some (Bytes.ofText text)
  | _ => none

/-- How an operation is answered. -/
inductive Answer where
  | sealed (result : Except Field.Error String)
  | opened (result : Except Field.Error (Bytes × UInt32))
  | changed (result : Except Field.Error Unit)
  | rotated (result : Except Field.Error UInt32)

namespace Manager

/-- The manager with the encryptor that a change gave, if it gave one. -/
def adopt (m : Manager) : Except Field.Error Field.Encryptor → Manager × Answer
  | .ok encryptor => ({ m with encryptor }, .changed (.ok ()))
  | .error e => (m, .changed (.error e))

/-- One operation: what it leaves behind and what it answers. -/
def perform (m : Manager) : Operation → Manager × Answer
  | .encrypt nonce plaintext => (m, .sealed (m.encryptor.encrypt nonce plaintext))
  | .encryptText nonce text => (m, .sealed (m.encryptor.encryptText nonce text))
  | .decrypt envelope => (m, .opened (m.encryptor.decrypt envelope))
  | .reEncrypt nonce envelope => (m, .sealed (m.encryptor.reEncrypt nonce envelope))
  | .addKey version key => m.adopt (m.encryptor.addKey version key)
  | .setCurrent version => m.adopt (m.encryptor.setCurrent version)
  | .rotate now key =>
    match m.rotate now key with
    | .ok (m, version) => (m, .rotated (.ok version))
    | .error e => (m, .rotated (.error e))

/-- Operations one after another. -/
def performAll (m : Manager) (ops : List Operation) : Manager :=
  ops.foldl (fun m op => (m.perform op).1) m

/-! ### What an operation keeps -/

/-- A rotation puts the promoted ring into the encryptor. -/
theorem rotate_spec {m later : Manager} {now : Instant} {text : String} {version : UInt32}
    (h : m.rotate now text = .ok (later, version)) :
    ∃ key, m.encryptor.ring.promote key = .ok later.encryptor.ring := by
  obtain ⟨key, -, h⟩ := Attempt.bind_eq_ok_iff.mp h
  obtain ⟨encryptor, hpromote, h⟩ := Attempt.bind_eq_ok_iff.mp h
  obtain ⟨rfl, -⟩ := Prod.mk.inj (Except.ok.inj h)
  exact ⟨key, Field.Encryptor.ring_of_ok hpromote⟩

/-- What holds between a ring and itself and between a ring and each of its changes holds along every
operation. -/
theorem perform_ring {R : Field.KeyRing → Field.KeyRing → Prop} (same : ∀ ring, R ring ring)
    (insert : ∀ ring later version key, ring.insert version key = .ok later → R ring later)
    (select : ∀ ring later version, ring.select version = .ok later → R ring later)
    (promote : ∀ ring later key, ring.promote key = .ok later → R ring later)
    (m : Manager) (op : Operation) : R m.encryptor.ring (m.perform op).1.encryptor.ring := by
  cases op with
  | encrypt nonce plaintext => exact same _
  | encryptText nonce text => exact same _
  | decrypt envelope => exact same _
  | reEncrypt nonce envelope => exact same _
  | addKey version key =>
    cases h : m.encryptor.addKey version key with
    | error e => simpa only [perform, adopt, h] using same _
    | ok e =>
      simp only [perform, adopt, h]
      exact insert _ _ version key (Field.Encryptor.ring_of_ok h)
  | setCurrent version =>
    cases h : m.encryptor.setCurrent version with
    | error e => simpa only [perform, adopt, h] using same _
    | ok e =>
      simp only [perform, adopt, h]
      exact select _ _ version (Field.Encryptor.ring_of_ok h)
  | rotate now text =>
    cases h : m.rotate now text with
    | error e => simpa only [perform, h] using same _
    | ok result =>
      obtain ⟨later, version⟩ := result
      obtain ⟨key, hpromote⟩ := rotate_spec h
      simp only [perform, h]
      exact promote _ _ key hpromote

theorem perform_extends (m : Manager) (op : Operation) :
    m.encryptor.ring.Extends (m.perform op).1.encryptor.ring :=
  perform_ring (R := Field.KeyRing.Extends) Field.KeyRing.Extends.refl
    (fun _ _ _ _ => Field.KeyRing.insert_extends) (fun _ _ _ => Field.KeyRing.select_extends)
    (fun _ _ _ => Field.KeyRing.promote_extends) m op

theorem perform_sound (m : Manager) (op : Operation) (h : m.encryptor.ring.Sound) :
    (m.perform op).1.encryptor.ring.Sound :=
  perform_ring (R := fun ring later => ring.Sound → later.Sound) (fun _ h => h)
    (fun _ _ _ _ => Field.KeyRing.insert_sound) (fun _ _ _ => Field.KeyRing.select_sound)
    (fun _ _ _ => Field.KeyRing.promote_sound) m op h

/-- No operations take a key away or put another in its place. -/
theorem performAll_extends (m : Manager) (ops : List Operation) :
    m.encryptor.ring.Extends (m.performAll ops).encryptor.ring := by
  induction ops generalizing m with
  | nil => exact Field.KeyRing.Extends.refl _
  | cons op ops ih => exact (perform_extends m op).trans (ih (m.perform op).1)

/-- A ring that has no version 0 and has its current version stays so. -/
theorem performAll_sound (m : Manager) (ops : List Operation) (h : m.encryptor.ring.Sound) :
    (m.performAll ops).encryptor.ring.Sound := by
  induction ops generalizing m with
  | nil => exact h
  | cons op ops ih => exact ih (m.perform op).1 (perform_sound m op h)

/-- An operation that is given a plaintext answers with what encryption makes of it. -/
theorem perform_of_plaintext {op : Operation} {plaintext : Bytes}
    (h : op.plaintext? = some plaintext) (m : Manager) :
    ∃ nonce, m.perform op = (m, .sealed (m.encryptor.encrypt nonce plaintext)) := by
  cases op with
  | encrypt nonce given =>
    obtain rfl : given = plaintext := Option.some.inj h
    exact ⟨nonce, rfl⟩
  | encryptText nonce text =>
    obtain rfl : Bytes.ofText text = plaintext := Option.some.inj h
    exact ⟨nonce, rfl⟩
  | decrypt envelope => cases h
  | reEncrypt nonce envelope => cases h
  | addKey version key => cases h
  | setCurrent version => cases h
  | rotate now key => cases h

/-- **Envelopes stay readable.**  Along every life of an encryptor, whatever is short enough is sealed,
into a text that begins with the version current at that moment, and from then on that text opens to
exactly the plaintext and that version, whatever was done in between. -/
theorem decrypt_of_sealed {e : Field.Encryptor} (made : e.IsMade) (schedule : Schedule)
    (began : Instant) (before after : List Operation) {op : Operation} {plaintext : Bytes}
    (given : op.plaintext? = some plaintext) (fits : plaintext.length ≤ Field.sealLimit) :
    let m := (start e schedule began).performAll before
    let version := m.encryptor.current
    ∃ envelope, (m.perform op).2 = .sealed (.ok envelope) ∧
      (∃ rest, envelope = "v" ++ Text.Decimal.text version.toNat ++ ":" ++ rest) ∧
      (((m.perform op).1.performAll after).perform (.decrypt envelope)).2
        = .opened (.ok (plaintext, version)) := by
  intro m version
  have hsound : m.encryptor.ring.Sound := performAll_sound _ before made.sound
  obtain ⟨nonce, hperform⟩ := perform_of_plaintext given m
  obtain ⟨key, hkey, hsealed⟩ := Field.Encryptor.encrypt_eq_render hsound nonce fits
  refine ⟨_, by rw [hperform, hsealed], Field.Envelope.text_prefix version nonce _, ?_⟩
  have hlater : ((m.perform op).1.performAll after).encryptor.ring.keys.get? version = some key := by
    rw [hperform]
    exact performAll_extends m after version key hkey
  exact congrArg Answer.opened
    (Field.Encryptor.decrypt_render hsound.current_ne_zero hlater nonce fits)

/-- A text sealed under version 1, between changes of the ring that succeed and changes that fail. -/
theorem decrypt_of_sealed_through_rotation :
    let key := Field.Key.ofNat 7
    let e : Field.Encryptor := ⟨⟨[(1, key)], 1⟩, []⟩
    let before := [Operation.addKey 2 (.ofNat 8), .addKey 2 key, .setCurrent 9]
    let op := Operation.encryptText (.ofNat 5) "jane@example.com"
    let plaintext := Bytes.ofText "jane@example.com"
    let after := [Operation.rotate 3 "no key", .setCurrent 2, .rotate 4 key.toBase64]
    let m := (start e {} 0).performAll before
    let version := m.encryptor.current
    e.IsMade ∧ op.plaintext? = some plaintext ∧ plaintext.length ≤ Field.sealLimit ∧
      ∃ envelope, (m.perform op).2 = .sealed (.ok envelope) ∧
        (∃ rest, envelope = "v" ++ Text.Decimal.text version.toNat ++ ":" ++ rest) ∧
        (((m.perform op).1.performAll after).perform (.decrypt envelope)).2
          = .opened (.ok (plaintext, version)) := by
  intro key e before op plaintext after m version
  have made : e.IsMade := .inl ⟨[(1, key)], 1, [], rfl⟩
  have fits : plaintext.length ≤ Field.sealLimit := by decide
  exact ⟨made, rfl, fits, decrypt_of_sealed made {} 0 before after rfl fits⟩

end Manager

end Rotation

end ProfileGuard
