import ProfileGuard.Proofs.Field.Lifetime
import ProfileGuard.Proofs.Field.Numbering

/-!
# A key ring at every point of its life

A ring is changed by loading a key, by choosing the current version, and by a rotation, which does both.
Each of these can be asked for with arguments that do not fit the ring: version 0, a version that is not
loaded, a version that holds another key, the version after the last one.  A change that is refused leaves
everything as it was, and one that succeeds keeps what the ring must always be, so that sealing never lacks
its key.

* **`Field.Encryptor.IsBuilt`** — how an encryptor comes about, with its versions in order.
* **`Rotation.Answer.isError`** — an operation was refused; **`Rotation.Manager.perform_of_isError`** says
  that it changed nothing.
* **`Field.Encryptor.encrypt_ne_keyNotFound`** — a sound ring has the key that sealing asks for.
* **`Rotation.Manager.ring_stands`** — all this at every point of every life.
-/

namespace ProfileGuard

namespace Field.Encryptor

/-- The encryptor was made from a map whose versions ascend, or from keys written in base64. -/
def IsBuilt (e : Encryptor) : Prop :=
  (∃ keys : KeyMap, ∃ current secret, keys.IsAscending ∧ make keys current secret = .ok e) ∨
    ∃ texts current secret, ofBase64 texts current secret = .ok e

theorem IsBuilt.isMade {e : Encryptor} (h : e.IsBuilt) : e.IsMade := by
  rcases h with ⟨keys, current, secret, _, h⟩ | h
  · exact .inl ⟨keys, current, secret, h⟩
  · exact .inr h

/-- An encryptor has the keys that it was made from. -/
theorem keys_of_make {keys : KeyMap} {current : UInt32} {secret : Bytes} {e : Encryptor}
    (h : make keys current secret = .ok e) : e.ring.keys = keys := by
  obtain ⟨ring, hring, h⟩ := Attempt.bind_eq_ok_iff.mp h
  obtain rfl := Except.ok.inj h
  rw [(KeyRing.make_spec hring).1]

theorem IsBuilt.isAscending {e : Encryptor} (h : e.IsBuilt) : e.ring.keys.IsAscending := by
  rcases h with ⟨keys, current, secret, ascending, h⟩ | ⟨texts, current, secret, h⟩
  · rw [keys_of_make h]
    exact ascending
  · obtain ⟨keys, hkeys, h⟩ := Attempt.bind_eq_ok_iff.mp h
    rw [keys_of_make h]
    exact KeyMap.ofBase64_isAscending hkeys

/-- A sound ring has the key that sealing asks for. -/
theorem encrypt_ne_keyNotFound {e : Encryptor} (h : e.ring.Sound) (nonce : Nonce)
    (plaintext : Bytes) (version : UInt32) :
    e.encrypt nonce plaintext ≠ .error (.keyNotFound version) := by
  obtain ⟨key, -, hsealed⟩ := encrypt_eq h nonce plaintext
  rw [hsealed, Key.encrypt]
  split <;> simp [Except.map]

end Field.Encryptor

namespace Rotation

/-- An operation was refused. -/
def Answer.isError : Answer → Bool
  | sealed (.error _) | opened (.error _) | changed (.error _) | rotated (.error _) => true
  | _ => false

namespace Manager

theorem adopt_of_isError {m : Manager} {change : Except Field.Error Field.Encryptor}
    (h : (m.adopt change).2.isError) : (m.adopt change).1 = m := by
  cases change with
  | ok encryptor => cases h
  | error e => rfl

/-- What is refused changes nothing: not the keys, not the current version, and nothing else. -/
theorem perform_of_isError {m : Manager} {op : Operation} (h : (m.perform op).2.isError) :
    (m.perform op).1 = m := by
  cases op with
  | encrypt nonce plaintext => rfl
  | encryptText nonce text => rfl
  | decrypt envelope => rfl
  | reEncrypt nonce envelope => rfl
  | addKey version key => exact adopt_of_isError h
  | setCurrent version => exact adopt_of_isError h
  | rotate now key =>
    cases hrotate : m.rotate now key with
    | error e => simp only [perform, hrotate]
    | ok result =>
      simp only [perform, hrotate] at h
      cases h

theorem perform_isAscending (m : Manager) (op : Operation) (h : m.encryptor.ring.keys.IsAscending) :
    (m.perform op).1.encryptor.ring.keys.IsAscending :=
  perform_ring (R := fun ring later => ring.keys.IsAscending → later.keys.IsAscending)
    (fun _ h => h) (fun _ _ _ _ => Field.KeyRing.insert_isAscending)
    (fun _ _ _ => Field.KeyRing.select_isAscending) (fun _ _ _ => Field.KeyRing.promote_isAscending)
    m op h

/-- Versions that ascend go on to ascend. -/
theorem performAll_isAscending (m : Manager) (ops : List Operation)
    (h : m.encryptor.ring.keys.IsAscending) : (m.performAll ops).encryptor.ring.keys.IsAscending := by
  induction ops generalizing m with
  | nil => exact h
  | cons op ops ih => exact ih (m.perform op).1 (perform_isAscending m op h)

/-- **What a key ring always is.**  At every point of every life of an encryptor, whatever was asked of it
and refused: the ring has a key, none under version 0, and one under its current version; every later ring
has all its keys under the same versions; an operation that is refused leaves everything as it was; sealing
never lacks its key; and the versions ascend strictly. -/
theorem ring_stands {e : Field.Encryptor} (built : e.IsBuilt) (schedule : Schedule)
    (began : Instant) (before after : List Operation) :
    let m := (start e schedule began).performAll before
    let ring := m.encryptor.ring
    ring.keys ≠ [] ∧ ring.keys.get? 0 = none ∧ (ring.keys.get? ring.current).isSome ∧
      ring.Extends (m.performAll after).encryptor.ring ∧
      (∀ op, (m.perform op).2.isError → (m.perform op).1 = m) ∧
      (∀ nonce plaintext version,
        m.encryptor.encrypt nonce plaintext ≠ .error (.keyNotFound version)) ∧
      m.encryptor.versions.Pairwise (· < ·) := by
  intro m ring
  have sound : ring.Sound := performAll_sound _ before built.isMade.sound
  have ascending : ring.keys.IsAscending := performAll_isAscending _ before built.isAscending
  exact ⟨sound.keys_ne_nil, sound.zero, sound.current, performAll_extends m after,
    fun _ => perform_of_isError, Field.Encryptor.encrypt_ne_keyNotFound sound, ascending⟩

/-- A ring after changes that succeed and changes that are refused: version 0, another key for a loaded
version, a version that is not loaded, a text that is no key, and a rotation onto a loaded version. -/
theorem ring_stands_through_refusals :
    let key := Field.Key.ofNat 7
    let e : Field.Encryptor := ⟨⟨[(1, key)], 1⟩, []⟩
    let before := [Operation.addKey 3 (.ofNat 8), .addKey 0 key, .addKey 1 (.ofNat 9), .setCurrent 2,
      .rotate 4 "no key", .rotate 5 key.toBase64]
    let after := [Operation.rotate 6 key.toBase64, .setCurrent 1]
    let m := (start e {} 0).performAll before
    e.IsBuilt ∧ m.encryptor.versions = [1, 2, 3] ∧ m.encryptor.current = 2 ∧
      m.encryptor.ring.Extends (m.performAll after).encryptor.ring ∧
      (m.perform (.rotate 6 key.toBase64)).2.isError ∧
      (m.perform (.rotate 6 key.toBase64)).1 = m := by
  intro key e before after
  have built : e.IsBuilt := .inl ⟨[(1, key)], 1, [], by decide, rfl⟩
  have stands := ring_stands built {} 0 before after
  refine ⟨built, by decide +kernel, by decide +kernel, stands.2.2.2.1, ?_⟩
  have refused : (((start e {} 0).performAll before).perform (.rotate 6 key.toBase64)).2.isError := by
    decide +kernel
  exact ⟨refused, stands.2.2.2.2.1 _ refused⟩

end Manager

end Rotation

end ProfileGuard
