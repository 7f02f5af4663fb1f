import ProfileGuard.Field.KeyRing
import ProfileGuard.Proofs.Attempt
import ProfileGuard.Proofs.Entries

/-!
# What the changes of a key ring keep

Every change of a ring that succeeds keeps all keys that were loaded, under the versions they had.

* **`Field.KeyMap.get?_put`** — the one version that setting a key touches.
* **`Field.KeyMap.IsAscending`** — each version stands once, in its place; setting a key keeps it so.
* **`Field.KeyMap.put_last`** — a version above all others goes to the end.
* **`Field.KeyMap.IsAscending.get?_of_mem`** — each key is found under its version.
* **`Field.KeyRing.insert_spec`**, **`Field.KeyRing.select_spec`**, **`Field.KeyRing.promote_spec`** —
  what a change that succeeds requires and brings about.
* **`Field.KeyRing.Sound`** — there is no version 0, and the current version is loaded.
* **`Field.KeyRing.Extends`** — every key of one ring is in the other, under the same version.
* **`Field.KeyRing.insert_cases`**, **`Field.KeyRing.promote_cases`** — which changes succeed.
-/

namespace ProfileGuard.Field

namespace KeyMap

theorem put_eq (version : UInt32) (key : Key) (keys : KeyMap) :
    put version key keys = Entries.put version key keys := by
  induction keys with
  | nil => rfl
  | cons entry rest ih => rw [put, Entries.put, ih]

theorem ofList_eq (given : List (UInt32 × Key)) : ofList given = Entries.ofList given := by
  simp only [ofList, put_eq]
  rfl

/-- Setting the key of a version is seen at that version only. -/
theorem get?_put (version : UInt32) (key : Key) (keys : KeyMap) (other : UInt32) :
    (put version key keys).get? other = if other = version then some key else keys.get? other := by
  rw [put_eq]
  exact Entries.lookup_put version key keys other

/-! ### Keys in their places -/

/-- The versions ascend, so that each stands once. -/
def IsAscending (keys : KeyMap) : Prop := keys.versions.Pairwise (· < ·)

instance (keys : KeyMap) : Decidable keys.IsAscending :=
  inferInstanceAs (Decidable (List.Pairwise _ _))

theorem put_isAscending (version : UInt32) (key : Key) {keys : KeyMap} (h : keys.IsAscending) :
    (put version key keys).IsAscending := by
  rw [put_eq]
  exact Entries.put_isAscending version key h

/-- A map made of keys one after another is in order, however they were given. -/
theorem ofList_isAscending (given : List (UInt32 × Key)) : (ofList given).IsAscending := by
  rw [ofList_eq]
  exact Entries.ofList_isAscending given

/-- A version above all others goes to the end. -/
theorem put_last {keys : KeyMap} {version : UInt32} (key : Key)
    (above : ∀ v ∈ keys.versions, v < version) : put version key keys = keys ++ [(version, key)] := by
  rw [put_eq]
  exact Entries.put_last key above

/-- In a map in order, a version is above those before it. -/
theorem IsAscending.above {before after : KeyMap} {version : UInt32} {key : Key}
    (h : IsAscending (before ++ (version, key) :: after)) : ∀ v ∈ before.versions, v < version :=
  Entries.IsAscending.above h

/-- In a map in order, a key that stands under a version is the one that is found. -/
theorem IsAscending.get?_of_mem {keys : KeyMap} (h : keys.IsAscending) {version : UInt32} {key : Key}
    (hmem : (version, key) ∈ keys) : keys.get? version = some key :=
  Entries.lookup_of_mem (Entries.IsAscending.nodup h) hmem

end KeyMap

namespace KeyRing

/-- There is no version 0, and the current version is loaded. -/
structure Sound (ring : KeyRing) : Prop where
  zero : ring.keys.get? 0 = none
  current : (ring.keys.get? ring.current).isSome

/-- The current version of a sound ring is not 0. -/
theorem Sound.current_ne_zero {ring : KeyRing} (h : ring.Sound) : ring.current ≠ 0 := by
  intro heq
  have hcurrent := h.current
  rw [heq, h.zero] at hcurrent
  exact absurd hcurrent (by simp)

/-- A sound ring has a key. -/
theorem Sound.keys_ne_nil {ring : KeyRing} (h : ring.Sound) : ring.keys ≠ [] := by
  intro heq
  have hcurrent := h.current
  rw [heq] at hcurrent
  cases hcurrent

/-- Every key of `ring` is in `later`, under the same version. -/
def Extends (ring later : KeyRing) : Prop :=
  ∀ version key, ring.keys.get? version = some key → later.keys.get? version = some key

theorem Extends.refl (ring : KeyRing) : ring.Extends ring := fun _ _ h => h

theorem Extends.trans {a b c : KeyRing} (hab : a.Extends b) (hbc : b.Extends c) : a.Extends c :=
  fun version key h => hbc version key (hab version key h)

/-! ### Making a ring -/

theorem make_spec {keys : KeyMap} {current : UInt32} {ring : KeyRing}
    (h : make keys current = .ok ring) : ring = ⟨keys, current⟩ ∧ ring.Sound := by
  unfold make at h
  split at h
  · cases h
  · split at h
    · cases h
    · rename_i hzero
      split at h
      · cases h
      · rename_i hcurrent
        obtain rfl : (⟨keys, current⟩ : KeyRing) = ring := Except.ok.inj h
        exact ⟨rfl, by simpa using hzero, by simpa [Option.isSome_iff_ne_none] using hcurrent⟩

/-! ### Changing a ring -/

/-- A key is loaded only where no other key is, and nothing else changes. -/
theorem insert_spec {ring later : KeyRing} {version : UInt32} {key : Key}
    (h : ring.insert version key = .ok later) :
    version ≠ 0 ∧ later.current = ring.current ∧
      (∀ loaded, ring.keys.get? version = some loaded → loaded = key) ∧
      ∀ other, later.keys.get? other
        = if other = version then some key else ring.keys.get? other := by
  unfold insert at h
  split at h
  · cases h
  · rename_i hzero
    split at h
    · rename_i hnone
      obtain rfl := Except.ok.inj h
      refine ⟨hzero, rfl, ?_, fun other => KeyMap.get?_put version key ring.keys other⟩
      intro loaded hloaded
      rw [hnone] at hloaded
      cases hloaded
    · rename_i loaded hloaded
      split at h
      · rename_i heq
        obtain rfl := Except.ok.inj h
        refine ⟨hzero, rfl, ?_, ?_⟩
        · intro other hother
          rw [hloaded] at hother
          rw [← heq]
          exact (Option.some.inj hother).symm
        · intro other
          by_cases hother : other = version
          · rw [if_pos hother, hother, hloaded, heq]
          · rw [if_neg hother]
      · cases h

theorem insert_extends {ring later : KeyRing} {version : UInt32} {key : Key}
    (h : ring.insert version key = .ok later) : ring.Extends later := by
  obtain ⟨-, -, hsame, hget⟩ := insert_spec h
  intro v k hk
  rw [hget v]
  by_cases hv : v = version
  · subst hv
    rw [if_pos rfl, hsame k hk]
  · rw [if_neg hv, hk]

theorem insert_sound {ring later : KeyRing} {version : UInt32} {key : Key}
    (h : ring.insert version key = .ok later) (hring : ring.Sound) : later.Sound := by
  obtain ⟨hversion, hcurrent, -, hget⟩ := insert_spec h
  constructor
  · rw [hget 0, if_neg (Ne.symm hversion)]
    exact hring.zero
  · rw [hget, hcurrent]
    split
    · rfl
    · exact hring.current

theorem insert_isAscending {ring later : KeyRing} {version : UInt32} {key : Key}
    (h : ring.insert version key = .ok later) (hring : ring.keys.IsAscending) :
    later.keys.IsAscending := by
  unfold insert at h
  split at h
  · cases h
  · split at h
    · obtain rfl := Except.ok.inj h
      exact KeyMap.put_isAscending version key hring
    · split at h
      · obtain rfl := Except.ok.inj h
        exact hring
      · cases h

/-- Only a loaded version becomes the current one, and no key changes. -/
theorem select_spec {ring later : KeyRing} {version : UInt32}
    (h : ring.select version = .ok later) :
    (ring.keys.get? version).isSome ∧ later = { ring with current := version } := by
  unfold select at h
  split at h
  · rename_i hsome
    exact ⟨hsome, (Except.ok.inj h).symm⟩
  · cases h

theorem select_extends {ring later : KeyRing} {version : UInt32}
    (h : ring.select version = .ok later) : ring.Extends later := by
  rw [(select_spec h).2]
  exact fun _ _ hk => hk

theorem select_sound {ring later : KeyRing} {version : UInt32}
    (h : ring.select version = .ok later) (hring : ring.Sound) : later.Sound := by
  obtain ⟨hsome, rfl⟩ := select_spec h
  exact ⟨hring.zero, hsome⟩

theorem select_isAscending {ring later : KeyRing} {version : UInt32}
    (h : ring.select version = .ok later) (hring : ring.keys.IsAscending) :
    later.keys.IsAscending := by
  rw [(select_spec h).2]
  exact hring

/-- A promotion is a load under the next version, which is then selected. -/
theorem promote_spec {ring later : KeyRing} {key : Key} (h : ring.promote key = .ok later) :
    ∃ loaded, ring.insert (ring.current + 1) key = .ok loaded ∧
      loaded.select (loaded.current + 1) = .ok later := by
  unfold promote at h
  split at h
  · cases h
  · exact Attempt.bind_eq_ok_iff.mp h

/-- A promotion makes the next version current, with the key, and changes no other version. -/
theorem promote_get? {ring later : KeyRing} {key : Key} (h : ring.promote key = .ok later) :
    later.current = ring.current + 1 ∧
      ∀ other, later.keys.get? other
        = if other = ring.current + 1 then some key else ring.keys.get? other := by
  obtain ⟨loaded, hinsert, hselect⟩ := promote_spec h
  obtain ⟨-, hcurrent, -, hget⟩ := insert_spec hinsert
  obtain ⟨-, rfl⟩ := select_spec hselect
  exact ⟨congrArg (· + 1) hcurrent, hget⟩

theorem promote_extends {ring later : KeyRing} {key : Key} (h : ring.promote key = .ok later) :
    ring.Extends later := by
  obtain ⟨loaded, hinsert, hselect⟩ := promote_spec h
  exact (insert_extends hinsert).trans (select_extends hselect)

theorem promote_isAscending {ring later : KeyRing} {key : Key} (h : ring.promote key = .ok later)
    (hring : ring.keys.IsAscending) : later.keys.IsAscending := by
  obtain ⟨loaded, hinsert, hselect⟩ := promote_spec h
  exact select_isAscending hselect (insert_isAscending hinsert hring)

theorem promote_sound {ring later : KeyRing} {key : Key} (h : ring.promote key = .ok later)
    (hring : ring.Sound) : later.Sound := by
  obtain ⟨loaded, hinsert, hselect⟩ := promote_spec h
  exact select_sound hselect (insert_sound hinsert hring)

/-! ### Which keys are taken -/

/-- A version holds no key yet, or this very key. -/
def Admits (ring : KeyRing) (version : UInt32) (key : Key) : Prop :=
  ring.keys.get? version = none ∨ ring.keys.get? version = some key

variable (ring : KeyRing) (key : Key)

/-- A key is loaded where it is admitted, and refused elsewhere. -/
theorem insert_cases {version : UInt32} (hversion : version ≠ 0) :
    (ring.Admits version key ∧ ∃ later, ring.insert version key = .ok later) ∨
      (¬ ring.Admits version key ∧ ∃ reason, ring.insert version key = .error (.invalidKey reason)) := by
  unfold insert
  rw [if_neg hversion]
  split
  · rename_i hnone
    exact .inl ⟨.inl hnone, _, rfl⟩
  · rename_i loaded hloaded
    split
    · rename_i heq
      subst heq
      exact .inl ⟨.inr hloaded, _, rfl⟩
    · rename_i hne
      refine .inr ⟨?_, _, rfl⟩
      rintro (hnone | hsame)
      · rw [hloaded] at hnone
        cases hnone
      · exact hne (Option.some.inj (hloaded.symm.trans hsame))

/-- A key is promoted where there is a next version and it is admitted there, and refused elsewhere. -/
theorem promote_cases :
    ((ring.current + 1 ≠ 0 ∧ ring.Admits (ring.current + 1) key) ∧
        ∃ later, ring.promote key = .ok later) ∨
      (¬ (ring.current + 1 ≠ 0 ∧ ring.Admits (ring.current + 1) key) ∧
        ∃ reason, ring.promote key = .error (.invalidKey reason)) := by
  unfold promote
  by_cases hlast : ring.current + 1 = 0
  · rw [if_pos hlast]
    exact .inr ⟨fun h => h.1 hlast, _, rfl⟩
  · rw [if_neg hlast]
    rcases insert_cases ring key hlast with ⟨hadmits, loaded, hinsert⟩ | ⟨hadmits, reason, hinsert⟩
    · obtain ⟨-, hcurrent, -, hget⟩ := insert_spec hinsert
      -- what was just loaded can be selected
      have hselect : loaded.select (loaded.current + 1) =
          .ok { loaded with current := loaded.current + 1 } := by
        unfold select
        rw [hcurrent, hget, if_pos rfl]
        rfl
      rw [hinsert]
      exact .inl ⟨⟨hlast, hadmits⟩, _, hselect⟩
    · rw [hinsert]
      exact .inr ⟨fun h => hadmits h.2, reason, rfl⟩

end KeyRing

end ProfileGuard.Field
