import ProfileGuard.Proofs.Field.Numbering
import ProfileGuard.Proofs.KeySource.Snapshot
import ProfileGuard.Rotation.Loading

/-!
# All ways of loading written keys agree

Keys written in base64 make an encryptor at once, or a source whose snapshot makes the encryptor of a
manager, or they stand in settings.  Each way checks the keys in an order of its own: the source asks for the
current version before anyone asks whether there is a version 0.  The two questions never disagree, as a list
that is long enough to be numbered up to version 0 has every version.

* **`Rotation.Manager.ofTexts`** — a manager of written keys, by way of a source.
* **`KeySource.Static.ofBase64_bind_make`** — the checks of a source, followed by those of an encryptor.
* **`Rotation.Manager.loads_agree`** — all ways succeed or fail alike, and give the same encryptor.
-/

namespace ProfileGuard

namespace KeySource.Static

open ProfileGuard.Field

/-- What the source of written keys checks, once each of them is a key. -/
theorem ofBase64_eq {texts : List String} {keys : KeyMap} (h : KeyMap.ofBase64 texts = .ok keys)
    (current : UInt32) :
    ofBase64 texts current =
      if keys.isEmpty then .error (.invalidKey "at least one key is required")
      else if (keys.get? current).isNone then
        .error (.invalidKey s!"current version {current.toNat} has no key")
      else .ok ⟨keys, current⟩ := by
  unfold ofBase64
  rw [h]
  simp only [bind, Except.bind]
  split
  · rfl
  · split <;> rfl

/-- The checks of a source, followed by those of an encryptor, are those of the encryptor alone. -/
theorem ofBase64_bind_make (texts : List String) (current : UInt32) (secret : Bytes) :
    (do
      let source ← ofBase64 texts current
      Encryptor.make source.keys source.current secret) = Encryptor.ofBase64 texts current secret := by
  cases hkeys : KeyMap.ofBase64 texts with
  | error e =>
    rw [ofBase64, Encryptor.ofBase64, hkeys]
    rfl
  | ok keys =>
    rw [ofBase64_eq hkeys, Encryptor.ofBase64, hkeys]
    show _ = Encryptor.make keys current secret
    rw [Encryptor.make, KeyRing.make]
    split
    · rfl
    · split
      · -- the encryptor asks for version 0 first, and a list without this version has no such key
        rename_i hcurrent
        have hzero : ¬ (keys.get? 0).isSome := by
          intro h
          have hall := KeyMap.isSome_get?_of_zero hkeys h current
          rw [Option.isNone_iff_eq_none.mp hcurrent] at hall
          cases hall
        rw [if_neg hzero]
        rfl
      · rename_i hempty hcurrent
        show Encryptor.make keys current secret = _
        rw [Encryptor.make, KeyRing.make, if_neg hempty, if_neg hcurrent]

/-- The source of written keys has the keys that are read from them. -/
theorem keys_of_ofBase64 {texts : List String} {current : UInt32} {source : Static}
    (h : ofBase64 texts current = .ok source) : KeyMap.ofBase64 texts = .ok source.keys := by
  obtain ⟨keys, hkeys, -⟩ := Attempt.bind_eq_ok_iff.mp h
  rw [ofBase64_eq hkeys] at h
  split at h
  · cases h
  · split at h
    · cases h
    · obtain rfl := Except.ok.inj h
      exact hkeys

/-- The source of written keys has them in order. -/
theorem ofBase64_isAscending {texts : List String} {current : UInt32} {source : Static}
    (h : ofBase64 texts current = .ok source) : source.keys.IsAscending :=
  KeyMap.ofBase64_isAscending (keys_of_ofBase64 h)

end KeySource.Static

namespace Rotation.Manager

/-- A manager of keys written in base64, by way of a source. -/
def ofTexts (texts : List String) (current : UInt32) (secret : Bytes) (schedule : Schedule)
    (now : Instant) : Except Field.Error Manager := do
  let source ← KeySource.Static.ofBase64 texts current
  ofSnapshot source.snapshot secret schedule now

/-- The way by a source leads to the encryptor that the keys make at once. -/
theorem ofTexts_eq (texts : List String) (current : UInt32) (secret : Bytes) (schedule : Schedule)
    (now : Instant) :
    ofTexts texts current secret schedule now =
      (Field.Encryptor.ofBase64 texts current secret).map fun e => start e schedule now := by
  rw [← KeySource.Static.ofBase64_bind_make, ofTexts]
  cases hsource : KeySource.Static.ofBase64 texts current with
  | error e => rfl
  | ok source =>
    have hsnapshot := source.snapshot_eq (KeySource.Static.ofBase64_isAscending hsource)
    show ofSnapshot source.snapshot secret schedule now =
      (Field.Encryptor.make source.keys source.current secret).map fun e => start e schedule now
    rw [hsnapshot]
    rfl

/-- Settings that can be used, and that name no secret store, load the keys that they hold. -/
theorem ofSettings_eq {s : Field.Settings} (inside : s.vaultEnabled = false)
    (usable : s.validate = .ok ()) (server : KeySource.Server) (now : Instant) :
    ofSettings s server now =
      (server, ofTexts s.keys s.current (Bytes.ofText s.secret) (.ofSettings s) now) := by
  simp only [ofSettings, usable, inside]
  rfl

/-- **All ways of loading written keys agree.**  However many keys are given, whichever of them are no keys,
and whatever version is asked for: a source and its snapshot give a manager exactly where the keys make an
encryptor at once, and the same error otherwise; the manager's encryptor has the same keys under the same
versions, the same current version and the same lookup hash; and settings that hold the keys, can be used and
name no secret store load them with that same outcome, without a request to any server. -/
theorem loads_agree (now : Instant) :
    (∀ texts current secret schedule,
      ofTexts texts current secret schedule now =
        (Field.Encryptor.ofBase64 texts current secret).map fun e => start e schedule now) ∧
    (∀ texts current secret schedule m,
      ofTexts texts current secret schedule now = .ok m →
        ∃ e, Field.Encryptor.ofBase64 texts current secret = .ok e ∧
          m.encryptor.ring.keys = e.ring.keys ∧ m.encryptor.current = e.current ∧
          ∀ text, m.encryptor.hash text = e.hash text) ∧
    ∀ (s : Field.Settings) (server : KeySource.Server), s.vaultEnabled = false →
      s.validate = .ok () →
      ofSettings s server now =
        (server, (Field.Encryptor.ofBase64 s.keys s.current (Bytes.ofText s.secret)).map fun e =>
          start e (.ofSettings s) now) := by
  refine ⟨fun texts current secret schedule => ofTexts_eq texts current secret schedule now, ?_, ?_⟩
  · intro texts current secret schedule m loaded
    rw [ofTexts_eq] at loaded
    cases hdirect : Field.Encryptor.ofBase64 texts current secret with
    | error e =>
      rw [hdirect] at loaded
      cases loaded
    | ok e =>
      rw [hdirect] at loaded
      obtain rfl := Except.ok.inj loaded
      exact ⟨e, rfl, rfl, rfl, fun _ => rfl⟩
  · intro s server inside usable
    rw [ofSettings_eq inside usable, ofTexts_eq]

/-- Settings with two keys, the second of them with blanks around it and current. -/
theorem loads_agree_in_settings :
    let key := (Field.Key.ofNat 7).toBase64
    let s : Field.Settings := {
      keys := [key, " " ++ key ++ "\n"]
      current := 2
      secret := "an-hmac-secret-that-is-long-enough!!" }
    let secret := Bytes.ofText s.secret
    let server : KeySource.Server := { response := ⟨500, []⟩ }
    s.vaultEnabled = false ∧ s.validate = .ok () ∧
      (∃ m e, ofTexts s.keys s.current secret {} 5 = .ok m ∧
        Field.Encryptor.ofBase64 s.keys s.current secret = .ok e ∧
        m.encryptor.ring.keys = e.ring.keys ∧ m.encryptor.hash "x" = e.hash "x") ∧
      ofSettings s server 5 =
        (server, (Field.Encryptor.ofBase64 s.keys s.current secret).map fun e =>
          start e (.ofSettings s) 5) := by
  intro key s secret server
  have usable : s.validate = .ok () := rfl
  obtain ⟨hall, hsame, hsettings⟩ := loads_agree 5
  refine ⟨rfl, usable, ?_, hsettings s server rfl usable⟩
  have loads : (ofTexts s.keys s.current secret {} 5).isOk := by decide +kernel
  cases hloaded : ofTexts s.keys s.current secret {} 5 with
  | error e =>
    rw [hloaded] at loads
    cases loads
  | ok m =>
    obtain ⟨e, hdirect, hkeys, -, hhash⟩ := hsame s.keys s.current secret {} m hloaded
    exact ⟨m, e, rfl, hdirect, hkeys, hhash "x"⟩

end Rotation.Manager

end ProfileGuard
