import ProfileGuard.KeySource.Static
import ProfileGuard.Proofs.Field.KeyRing

/-!
# Snapshots put together from single answers

A snapshot asks for the current version, for the list of versions, and then for the key of each.  Where the
answers are those of one map whose versions ascend, the keys come back in their order, each behind the ones
before it, and the map is put together again as it was.

* **`KeySource.Static.collect_versions`** — the keys collected so far, with those still to come.
* **`KeySource.Static.snapshot_eq`** — the snapshot of a fixed list is that list.
-/

namespace ProfileGuard

namespace KeySource.Static

open ProfileGuard.Field

/-- The keys collected so far, with those still to come. -/
theorem collect_versions (s : Static) (before after : KeyMap) (keys : s.keys = before ++ after)
    (ascending : s.keys.IsAscending) :
    s.reader.collect before after.versions = .ok s.keys := by
  induction after generalizing before with
  | nil =>
    rw [keys, List.append_nil]
    rfl
  | cons entry after ih =>
    obtain ⟨version, key⟩ := entry
    have above : ∀ v ∈ before.versions, v < version := by
      rw [keys] at ascending
      exact ascending.above
    have hkey : s.reader.key version = .ok key := by
      have hget : s.keys.get? version = some key :=
        ascending.get?_of_mem (keys ▸ List.mem_append_right _ List.mem_cons_self)
      show s.key version = .ok key
      rw [Static.key, hget]
    have hstep : s.reader.collect before (KeyMap.versions ((version, key) :: after))
        = s.reader.collect (before.put version key) (KeyMap.versions after) := by
      rw [KeyMap.versions, List.map_cons, Reader.collect, hkey]
      rfl
    rw [hstep, KeyMap.put_last key above]
    exact ih (before ++ [(version, key)]) (by rw [keys, List.append_assoc]; rfl)

/-- The snapshot of a fixed list is that list. -/
theorem snapshot_eq (s : Static) (ascending : s.keys.IsAscending) :
    s.snapshot = .ok ⟨s.current, s.keys⟩ := by
  have hcollect : s.reader.collect [] s.keys.versions = .ok s.keys :=
    collect_versions s [] s.keys rfl ascending
  show (match s.reader.collect [] s.keys.versions with
    | .error e => .error e
    | .ok keys => .ok ⟨s.current, keys⟩) = (.ok ⟨s.current, s.keys⟩ : Except Error Snapshot)
  rw [hcollect]

end KeySource.Static

end ProfileGuard
