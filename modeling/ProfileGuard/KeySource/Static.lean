import ProfileGuard.KeySource.Basic

/-!
# Keys from a fixed list

* **`KeySource.Static`** — keys numbered from one, with a current version.
* **`KeySource.Static.ofBase64`** — the source of a list of base64 texts.
-/

namespace ProfileGuard.KeySource

/-- Keys that never change. -/
structure Static where
  keys : Field.KeyMap
  current : UInt32

namespace Static

/-- The source of keys written in base64, numbered from one. -/
def ofBase64 (texts : List String) (current : UInt32) : Except Field.Error Static := do
  let keys ← Field.KeyMap.ofBase64 texts
  if keys.isEmpty then throw (.invalidKey "at least one key is required")
  if (keys.get? current).isNone then
    throw (.invalidKey s!"current version {current.toNat} has no key")
  return ⟨keys, current⟩

/-- The key of a version. -/
def key (s : Static) (version : UInt32) : Except Error Field.Key :=
  match s.keys.get? version with
  | some key => .ok key
  | none => .error (.versionNotFound version)

/-- The versions, ascending. -/
def versions (s : Static) : List UInt32 := s.keys.versions

/-- The answers of the source, which change nothing. -/
def reader (s : Static) : Reader Id where
  key version := s.key version
  current := .ok s.current
  versions := .ok s.versions

/-- All keys with the current version. -/
def snapshot (s : Static) : Except Error Snapshot := s.reader.snapshot

end Static

end ProfileGuard.KeySource
