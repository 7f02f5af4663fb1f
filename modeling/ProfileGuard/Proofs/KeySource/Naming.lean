import ProfileGuard.Proofs.Attempt
import ProfileGuard.Proofs.KeySource.Secret
import ProfileGuard.Proofs.Text.Spelling

/-!
# Names and versions

The names in a secret are read as numbers, with a sign or leading zeros if they have any, and a key is looked up
under the decimal text of its number.  The two agree on names that are written without sign and zeros.  A version
that is spelled otherwise only, such as `01`, is listed and cannot be fetched, and one that is spelled twice is
listed twice.  Here is exactly when that happens, said by the grammar of numerals.

* **`KeySource.Names`** — a name is a spelling of a version.
* **`KeySource.Document.mem_versionsOf_iff`** / **`KeySource.Document.versionsOf_ascends_iff`** — which versions
  are listed, and when each of them once.
* **`KeySource.Document.keyAt_unfound_iff`** / **`KeySource.Document.snapshot_unfound_iff`** — when a key and
  when a snapshot fails because a version is not found.
* **`KeySource.Document.listed_unfetchable_iff`** — these together.
-/

namespace ProfileGuard.KeySource

open ProfileGuard.Field

/-- The name is a spelling of the version: its digits, perhaps after zeros, perhaps after a plus sign. -/
def Names (name : String) (version : UInt32) : Prop :=
  Text.Decimal.IsNumeral name.toList version.toNat

theorem readWord?_eq_some_iff_names {name : String} {version : UInt32} :
    Text.Decimal.readWord? name.toList = some version ↔ Names name version :=
  Text.Decimal.readWord?_eq_some_iff

namespace Document

variable {d : Document} {keys : List (String × Json.Value)} {version other : UInt32} {found : KeyMap}

/-! ### What is listed -/

/-- The versions that some name spells are listed, and no others. -/
theorem mem_versionsOf_iff : version ∈ versionsOf keys ↔ ∃ entry ∈ keys, Names entry.1 version := by
  rw [(versionsOf_perm keys).mem_iff, List.mem_filterMap]
  simp only [readWord?_eq_some_iff_names]

/-- Each version is listed once exactly if no two names spell the same one. -/
theorem versionsOf_ascends_iff : (versionsOf keys).Pairwise (· < ·) ↔
    keys.Pairwise fun a b => ∀ version, ¬ (Names a.1 version ∧ Names b.1 version) := by
  have hstrict : (versionsOf keys).Pairwise (· < ·) ↔ (versionsOf keys).Nodup := by
    constructor
    · exact List.Pairwise.imp UInt32.ne_of_lt
    · intro distinct
      exact ((versionsOf_pairwise keys).and distinct).imp fun h => UInt32.lt_of_le_of_ne h.1 h.2
  rw [hstrict, (versionsOf_perm keys).nodup_iff, List.nodup_iff_pairwise_ne, List.pairwise_filterMap]
  refine List.Pairwise.iff fun a b => ?_
  simp only [readWord?_eq_some_iff_names]
  constructor
  · intro distinct version h
    exact distinct version h.1 version h.2 rfl
  · rintro separate version hversion other hother rfl
    exact separate version ⟨hversion, hother⟩

/-! ### What is found -/

/-- No key is found exactly if no name is the decimal text of the version. -/
theorem keyAt_unfound_iff : keyAt keys version = .error (.versionNotFound other) ↔
    other = version ∧ Text.Decimal.text version.toNat ∉ keys.map Prod.fst := by
  have habsent : keys.lookup (Text.Decimal.text version.toNat) = none ↔
      Text.Decimal.text version.toNat ∉ keys.map Prod.fst := by
    rw [List.lookup_eq_none_iff, List.mem_map]
    grind
  rw [← habsent]
  constructor
  · intro h
    unfold keyAt at h
    split at h
    · rename_i hlookup
      cases h
      exact ⟨rfl, hlookup⟩
    · split at h <;> cases h
    · cases h
  · rintro ⟨rfl, hlookup⟩
    rw [keyAt, hlookup]

/-- Collecting fails at the first version whose key cannot be had, and as looking up this key does. -/
theorem collect_eq_error_iff {versions : List UInt32} {error : Error} :
    collect keys found versions = .error error ↔
      ∃ before version after, versions = before ++ version :: after ∧
        (∀ earlier ∈ before, ∃ key, keyAt keys earlier = .ok key) ∧ keyAt keys version = .error error := by
  induction versions generalizing found with
  | nil => simp [collect]
  | cons first versions ih =>
    rw [collect, Attempt.bind_eq_error_iff]
    constructor
    · rintro (hfirst | ⟨key, hfirst, hlater⟩)
      · exact ⟨[], first, versions, rfl, List.forall_mem_nil _, hfirst⟩
      · obtain ⟨before, version, after, rfl, hbefore, hversion⟩ := ih.mp hlater
        exact ⟨first :: before, version, after, rfl, List.forall_mem_cons.mpr ⟨⟨key, hfirst⟩, hbefore⟩,
          hversion⟩
    · rintro ⟨before, version, after, hsplit, hbefore, hversion⟩
      cases before with
      | nil =>
        obtain ⟨rfl, rfl⟩ := List.cons.inj hsplit
        exact .inl hversion
      | cons _ before =>
        obtain ⟨rfl, rfl⟩ := List.cons.inj hsplit
        obtain ⟨⟨key, hfirst⟩, hbefore⟩ := List.forall_mem_cons.mp hbefore
        exact .inr ⟨key, hfirst, ih.mpr ⟨before, version, after, rfl, hbefore, hversion⟩⟩

/-- Collecting the keys of versions that do not descend fails for a version exactly if it is one of them and not
found, while those below it have keys. -/
theorem collect_unfound_iff {versions : List UInt32} (ordered : versions.Pairwise (· ≤ ·)) :
    collect keys found versions = .error (.versionNotFound version) ↔
      version ∈ versions ∧ keyAt keys version = .error (.versionNotFound version) ∧
        ∀ earlier ∈ versions, earlier < version → ∃ key, keyAt keys earlier = .ok key := by
  rw [collect_eq_error_iff]
  constructor
  · rintro ⟨before, failing, after, rfl, hbefore, hversion⟩
    obtain rfl := (keyAt_unfound_iff.mp hversion).1
    refine ⟨List.mem_append_right _ List.mem_cons_self, hversion, fun earlier hearlier hlt => ?_⟩
    rcases List.mem_append.mp hearlier with h | h
    · exact hbefore earlier h
    · have hle : version ≤ earlier := by
        rcases List.mem_cons.mp h with rfl | h
        · exact UInt32.le_refl _
        · exact (List.pairwise_cons.mp (List.pairwise_append.mp ordered).2.1).1 earlier h
      exact absurd hlt (UInt32.not_lt.mpr hle)
  · rintro ⟨hmem, hversion, hbelow⟩
    obtain ⟨before, after, rfl, hfirst⟩ := List.eq_append_cons_of_mem hmem
    refine ⟨before, version, after, rfl, fun earlier hearlier => ?_, hversion⟩
    have hle : earlier ≤ version :=
      (List.pairwise_append.mp ordered).2.2 earlier hearlier version List.mem_cons_self
    have hne : earlier ≠ version := fun h => hfirst (h ▸ hearlier)
    exact hbelow earlier (List.mem_append_left _ hearlier) (UInt32.lt_of_le_of_ne hle hne)

/-- What is wrong with a version number or with the map of keys is no missing version. -/
theorem current_ne_unfound (d : Document) (version : UInt32) :
    d.current ≠ .error (.versionNotFound version) := by
  rw [current]
  split
  · simp
  · split <;> simp

theorem keys_ne_unfound (d : Document) (version : UInt32) : d.keys ≠ .error (.versionNotFound version) := by
  rw [Document.keys]
  split <;> simp

/-- A snapshot fails for a version exactly if it is the least one listed without a key under its decimal text,
and the rest of the document is in order up to there. -/
theorem snapshot_unfound_iff : d.snapshot = .error (.versionNotFound version) ↔
    ∃ current keys, d.current = .ok current ∧ d.keys = .ok keys ∧ version ∈ versionsOf keys ∧
      Text.Decimal.text version.toNat ∉ keys.map Prod.fst ∧
      ∀ earlier ∈ versionsOf keys, earlier < version → ∃ key, keyAt keys earlier = .ok key := by
  have hcollect (keys : List (String × Json.Value)) :
      collect keys [] (versionsOf keys) = .error (.versionNotFound version) ↔
        version ∈ versionsOf keys ∧ Text.Decimal.text version.toNat ∉ keys.map Prod.fst ∧
          ∀ earlier ∈ versionsOf keys, earlier < version → ∃ key, keyAt keys earlier = .ok key := by
    rw [collect_unfound_iff (versionsOf_pairwise keys), keyAt_unfound_iff, and_iff_right rfl]
  rw [snapshot]
  constructor
  · intro h
    rcases Attempt.bind_eq_error_iff.mp h with hcurrent | ⟨current, hcurrent, h⟩
    · exact absurd hcurrent (current_ne_unfound d version)
    rcases Attempt.bind_eq_error_iff.mp h with hkeys | ⟨keys, hkeys, h⟩
    · exact absurd hkeys (keys_ne_unfound d version)
    rcases Attempt.bind_eq_error_iff.mp h with h | ⟨found, _, h⟩
    · exact ⟨current, keys, hcurrent, hkeys, (hcollect keys).mp h⟩
    · cases h
  · rintro ⟨current, keys, hcurrent, hkeys, h⟩
    rw [hcurrent, hkeys]
    exact Attempt.bind_eq_error_iff.mpr (.inr ⟨current, rfl, Attempt.bind_eq_error_iff.mpr
      (.inr ⟨keys, rfl, Attempt.bind_eq_error_iff.mpr (.inl ((hcollect keys).mpr h))⟩)⟩)

/-- **A listed version that cannot be fetched** is one that names spell, but none of them in plain decimal.  The
list never descends, and each version stands in it once exactly if no two names spell the same one.  A snapshot
fails over the least version that is listed and cannot be fetched, unless something else fails before. -/
theorem listed_unfetchable_iff (d : Document) (keys : List (String × Json.Value)) (version : UInt32) :
    (versionsOf keys).Pairwise (· ≤ ·) ∧
    ((versionsOf keys).Pairwise (· < ·) ↔
      keys.Pairwise fun a b => ∀ version, ¬ (Names a.1 version ∧ Names b.1 version)) ∧
    (version ∈ versionsOf keys ∧ keyAt keys version = .error (.versionNotFound version) ↔
      (∃ entry ∈ keys, Names entry.1 version) ∧ Text.Decimal.text version.toNat ∉ keys.map Prod.fst) ∧
    (d.snapshot = .error (.versionNotFound version) ↔
      ∃ current keys, d.current = .ok current ∧ d.keys = .ok keys ∧ version ∈ versionsOf keys ∧
        Text.Decimal.text version.toNat ∉ keys.map Prod.fst ∧
        ∀ earlier ∈ versionsOf keys, earlier < version → ∃ key, keyAt keys earlier = .ok key) := by
  refine ⟨versionsOf_pairwise keys, versionsOf_ascends_iff, ?_, snapshot_unfound_iff⟩
  rw [mem_versionsOf_iff, keyAt_unfound_iff, and_iff_right rfl]

/-- A key under a name that a zero leads is listed and cannot be fetched, and the snapshot fails over it.  Beside
the plain name, its version is listed twice. -/
theorem zero_led_name_unfetchable :
    let key := Json.Value.string (Samples.key 1)
    let secret (keys : List (String × Json.Value)) : Document :=
      [("current_version", Samples.natural 1), ("keys", .object keys)]
    versionsOf [("01", key)] = [1] ∧ keyAt [("01", key)] 1 = .error (.versionNotFound 1) ∧
      (secret [("01", key)]).snapshot = .error (.versionNotFound 1) ∧
      versionsOf [("01", key), ("1", key)] = [1, 1] ∧
      ¬ (versionsOf [("01", key), ("1", key)]).Pairwise (· < ·) := by
  intro key secret
  have hlisted : versionsOf [("01", key)] = [1] := by decide
  have htwice : versionsOf [("01", key), ("1", key)] = [1, 1] := by decide
  have hcurrent : (secret [("01", key)]).current = .ok 1 := rfl
  have hsnapshot : (secret [("01", key)]).snapshot = .error (.versionNotFound 1) := by
    refine snapshot_unfound_iff.mpr ⟨1, [("01", key)], hcurrent, rfl, ?_⟩
    rw [hlisted]
    exact ⟨List.mem_cons_self, by decide, by simp⟩
  refine ⟨hlisted, rfl, hsnapshot, htwice, ?_⟩
  rw [htwice]
  decide

end Document

end ProfileGuard.KeySource
