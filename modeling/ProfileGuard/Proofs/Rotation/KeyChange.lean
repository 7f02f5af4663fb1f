import ProfileGuard.Proofs.Field.Lifetime

/-!
# A key change as a whole

A key change does several things: it loads the key, makes its version the current one, takes the age of the key
back to nothing, publishes that no change is due, and tells the observer.  It does all of them or none, and which
of the two depends on three conditions: the text must be a key, there must be a next version, and that version
must be free, or hold the very same key.

* **`Field.Key.ofBase64_cases`** / **`Field.KeyRing.promote_cases`** — the two stages at which a key change can be
  refused.
* **`Rotation.Manager.Accepts`** — the three conditions.
* **`Rotation.Manager.ChangesTo`** — everything that a key change brings about.
* **`Rotation.Manager.keyChange_isAtomic`** — all of it under the conditions, nothing otherwise.
-/

namespace ProfileGuard

namespace Field.Key

/-- Different keys have different texts. -/
theorem eq_of_encodeChars {key other : Key}
    (h : Text.Base64.encodeChars key.bytes = Text.Base64.encodeChars other.bytes) : key = other := by
  obtain ⟨bytes, _⟩ := key
  obtain ⟨bytes', _⟩ := other
  obtain rfl : bytes = bytes' := Text.Base64.encodeChars_injective h
  rfl

/-- A text is a key if it is the base64 of one, outer blanks apart, and it is refused otherwise. -/
theorem ofBase64_cases (text : String) :
    (∃ key, Text.trimChars text.toList = Text.Base64.encodeChars key.bytes ∧ ofBase64 text = .ok key) ∨
      ((∀ key : Key, Text.trimChars text.toList ≠ Text.Base64.encodeChars key.bytes) ∧
        ∃ reason, ofBase64 text = .error (.invalidKey reason)) := by
  unfold ofBase64 Text.Base64.decode? Text.trim
  rw [String.toList_ofList]
  split
  · rename_i bytes hbytes
    have htext := Text.Base64.decodeChars?_eq_some_iff.mp hbytes
    unfold ofBytes
    split
    · rename_i hlength
      exact .inl ⟨⟨bytes, hlength⟩, htext, rfl⟩
    · rename_i hlength
      refine .inr ⟨fun key hkey => hlength ?_, _, rfl⟩
      rw [Text.Base64.encodeChars_injective (htext.symm.trans hkey)]
      exact key.length_eq
  · rename_i hnone
    refine .inr ⟨fun key hkey => ?_, _, rfl⟩
    rw [Text.Base64.decodeChars?_eq_some_iff.mpr hkey] at hnone
    cases hnone

end Field.Key

namespace Rotation.Manager

/-- A text is a key that can follow the current one. -/
structure Accepts (m : Manager) (text : String) (key : Field.Key) : Prop where
  /-- Outer blanks apart, the text is the base64 of the key's 32 bytes. -/
  text_eq : Text.trimChars text.toList = Text.Base64.encodeChars key.bytes
  /-- There is a next version. -/
  room : m.encryptor.current.toNat < UInt32.size - 1
  /-- The next version is free, or holds the very same key. -/
  free : m.encryptor.ring.Admits (m.encryptor.current + 1) key

/-- Everything that a key change brings about. -/
structure ChangesTo (m later : Manager) (now : Instant) (key : Field.Key) : Prop where
  current : later.encryptor.current = m.encryptor.current + 1
  loaded : later.encryptor.ring.keys.get? later.encryptor.current = some key
  others : ∀ version, version ≠ later.encryptor.current →
    later.encryptor.ring.keys.get? version = m.encryptor.ring.keys.get? version
  /-- The key is new, that no change is due is published, the observer of that moment is told once, and nothing
  else changes. -/
  manager_eq : later = { m with
    encryptor := { m.encryptor with ring := later.encryptor.ring }
    lastRotation := now
    due := false
    publications := m.publications + 1
    announced := m.announced ++ m.observer.toList.map fun observer =>
      ⟨observer, m.encryptor.current, m.encryptor.current + 1⟩ }

variable {m later : Manager} {now : Instant} {text : String} {key : Field.Key}

/-- A text is at most one key. -/
theorem Accepts.eq {other : Field.Key} (h : m.Accepts text key) (h' : m.Accepts text other) :
    key = other :=
  Field.Key.eq_of_encodeChars (h.text_eq.symm.trans h'.text_eq)

/-! ### The two stages -/

theorem announce_eq (m : Manager) (old new : UInt32) :
    m.announce old new = m.observer.toList.map fun observer => ⟨observer, old, new⟩ := by
  unfold announce
  cases m.observer <;> rfl

/-- There is a next version below the last one. -/
theorem add_one_ne_zero_iff (version : UInt32) : version + 1 ≠ 0 ↔ version.toNat < UInt32.size - 1 := by
  have hbound : version.toNat < 4294967296 := version.toNat_lt
  rw [Ne, ← UInt32.toNat_inj, UInt32.toNat_add]
  show ¬ (version.toNat + 1) % 4294967296 = 0 ↔ version.toNat < 4294967296 - 1
  omega

/-- A key that is promoted brings about everything. -/
theorem perform_of_promoted {ring : Field.KeyRing} (hkey : Field.Key.ofBase64 text = .ok key)
    (hpromote : m.encryptor.ring.promote key = .ok ring) :
    (m.perform (.rotate now text)).2 = .rotated (.ok (m.encryptor.current + 1)) ∧
      m.ChangesTo (m.perform (.rotate now text)).1 now key := by
  obtain ⟨hcurrent, hget⟩ := Field.KeyRing.promote_get? hpromote
  have hencryptor : m.encryptor.promote key = .ok { m.encryptor with ring } := by
    rw [Field.Encryptor.promote, hpromote]
    rfl
  have hrotate : m.rotate now text = .ok ({ m with
      encryptor := { m.encryptor with ring }
      lastRotation := now
      due := false
      publications := m.publications + 1
      announced := m.announced ++ m.announce m.encryptor.current ring.current }, ring.current) := by
    rw [rotate, hkey]
    simp only [bind, Except.bind, hencryptor]
    rfl
  rw [perform, hrotate, hcurrent, announce_eq]
  refine ⟨rfl, hcurrent, ?_, fun version hversion => ?_, rfl⟩
  · show ring.keys.get? ring.current = some key
    rw [hcurrent, hget, if_pos rfl]
  · show ring.keys.get? version = m.encryptor.ring.keys.get? version
    rw [hget, if_neg fun heq => hversion (heq.trans hcurrent.symm)]

/-- A text that is no key brings about nothing. -/
theorem perform_of_no_key {error : Field.Error} (hkey : Field.Key.ofBase64 text = .error error) :
    m.perform (.rotate now text) = (m, .rotated (.error error)) := by
  rw [perform, rotate, hkey]
  rfl

/-- A key that is not promoted brings about nothing. -/
theorem perform_of_refused {error : Field.Error} (hkey : Field.Key.ofBase64 text = .ok key)
    (hpromote : m.encryptor.ring.promote key = .error error) :
    m.perform (.rotate now text) = (m, .rotated (.error error)) := by
  have hencryptor : m.encryptor.promote key = .error error := by
    rw [Field.Encryptor.promote, hpromote]
    rfl
  rw [perform, rotate, hkey]
  simp only [bind, Except.bind, hencryptor]

/-! ### Both together -/

/-- A key change is accepted and brings about everything, or it is refused and brings about nothing. -/
theorem perform_rotate_cases (m : Manager) (now : Instant) (text : String) :
    (∃ key, m.Accepts text key ∧
        (m.perform (.rotate now text)).2 = .rotated (.ok (m.encryptor.current + 1)) ∧
        m.ChangesTo (m.perform (.rotate now text)).1 now key) ∨
      ((¬ ∃ key, m.Accepts text key) ∧
        ∃ reason, m.perform (.rotate now text) = (m, .rotated (.error (.invalidKey reason)))) := by
  rcases Field.Key.ofBase64_cases text with ⟨key, htext, hkey⟩ | ⟨hnone, reason, hkey⟩
  · rcases Field.KeyRing.promote_cases m.encryptor.ring key with
      ⟨⟨hroom, hfree⟩, ring, hpromote⟩ | ⟨hrefused, reason, hpromote⟩
    · exact .inl ⟨key, ⟨htext, (add_one_ne_zero_iff _).mp hroom, hfree⟩,
        perform_of_promoted hkey hpromote⟩
    · refine .inr ⟨?_, reason, perform_of_refused hkey hpromote⟩
      rintro ⟨other, accepts⟩
      obtain rfl : other = key := Field.Key.eq_of_encodeChars (accepts.text_eq.symm.trans htext)
      exact hrefused ⟨(add_one_ne_zero_iff _).mpr accepts.room, accepts.free⟩
  · exact .inr ⟨fun ⟨key, accepts⟩ => hnone key accepts.text_eq, reason, perform_of_no_key hkey⟩

/-- **A key change is all or nothing.**  In every state of a manager and for every text: the key is changed
exactly if the text is a key, there is a next version, and that version is free or holds the very same key.  Then
the next version is answered; it is current and holds the key, every other version is as it was, the age of the
key starts at the present instant, it is published that no change is due, and the observer of that moment, and
nobody else, is told once of the old version and the new one.  Otherwise the key is refused, and nothing
changes: not the keys, not the current version, not the age, not what is published, and nobody is told. -/
theorem keyChange_isAtomic (m : Manager) (now : Instant) (text : String) :
    ((∃ version, (m.perform (.rotate now text)).2 = .rotated (.ok version)) ↔
      ∃ key, m.Accepts text key) ∧
    (∀ key, m.Accepts text key →
      (m.perform (.rotate now text)).2 = .rotated (.ok (m.encryptor.current + 1)) ∧
        m.ChangesTo (m.perform (.rotate now text)).1 now key) ∧
    ((¬ ∃ key, m.Accepts text key) →
      ∃ reason, m.perform (.rotate now text) = (m, .rotated (.error (.invalidKey reason)))) := by
  rcases perform_rotate_cases m now text with ⟨key, accepts, hanswer, changes⟩ | ⟨hnone, reason, hrefused⟩
  · refine ⟨⟨fun _ => ⟨key, accepts⟩, fun _ => ⟨_, hanswer⟩⟩, fun other hother => ?_,
      fun hnone => absurd ⟨key, accepts⟩ hnone⟩
    obtain rfl := accepts.eq hother
    exact ⟨hanswer, changes⟩
  · refine ⟨⟨fun ⟨version, hversion⟩ => ?_, fun haccepts => absurd haccepts hnone⟩,
      fun key accepts => absurd ⟨key, accepts⟩ hnone, fun _ => ⟨reason, hrefused⟩⟩
    rw [hrefused] at hversion
    cases hversion

/-- A key that the next version holds already, with blanks around it, and a key that it does not hold. -/
theorem keyChange_isAtomic_onto_loaded_version :
    let key := Field.Key.ofNat 8
    let m : Manager :=
      { (start ⟨⟨[(1, .ofNat 7), (2, key)], 1⟩, []⟩ {} 0).observe 4 with due := true }
    let text := " " ++ key.toBase64 ++ "\n"
    let other := (Field.Key.ofNat 9).toBase64
    m.Accepts text key ∧ (m.perform (.rotate 5 text)).2 = .rotated (.ok 2) ∧
      m.ChangesTo (m.perform (.rotate 5 text)).1 5 key ∧
      (m.perform (.rotate 5 text)).1.announced = [⟨4, 1, 2⟩] ∧
      (¬ ∃ key, m.Accepts other key) ∧
      ∃ reason, m.perform (.rotate 5 other) = (m, .rotated (.error (.invalidKey reason))) := by
  intro key m text other
  have accepts : m.Accepts text key := ⟨by decide +kernel, by decide, .inr rfl⟩
  have refused : ¬ ∃ key, m.Accepts other key := by
    rintro ⟨given, h⟩
    have hother : Text.trimChars other.toList = Text.Base64.encodeChars (Field.Key.ofNat 9).bytes := by
      decide +kernel
    obtain rfl := Field.Key.eq_of_encodeChars (h.text_eq.symm.trans hother)
    rcases h.free with hnone | hsame
    · exact absurd hnone (by decide)
    · exact absurd hsame (by decide)
  obtain ⟨-, succeeds, -⟩ := keyChange_isAtomic m 5 text
  obtain ⟨-, -, fails⟩ := keyChange_isAtomic m 5 other
  obtain ⟨hanswer, changes⟩ := succeeds key accepts
  refine ⟨accepts, hanswer, changes, ?_, refused, fails refused⟩
  rw [changes.manager_eq]
  rfl

end Rotation.Manager

end ProfileGuard
