import ProfileGuard.Field.Key

/-!
# Key rings

Keys by version, with one version that new fields are sealed under.  A version once loaded keeps its
key for ever, so that nothing sealed under it is lost.

* **`Field.KeyMap`** — keys in ascending order of their versions.
* **`Field.KeyRing`** — a key map with its current version.
* **`Field.KeyRing.insert`**, **`Field.KeyRing.select`**, **`Field.KeyRing.promote`** — the changes.
-/

namespace ProfileGuard.Field

/-- Keys in ascending order of their versions, each version once. -/
abbrev KeyMap := List (UInt32 × Key)

namespace KeyMap

/-- The key of a version. -/
def get? (keys : KeyMap) (version : UInt32) : Option Key := keys.lookup version

/-- The keys with one set. -/
def put (version : UInt32) (key : Key) : KeyMap → KeyMap
  | [] => [(version, key)]
  | (v, k) :: rest =>
    if version < v then (version, key) :: (v, k) :: rest
    else if version = v then (version, key) :: rest
    else (v, k) :: put version key rest

/-- The keys given one after another; of one version the last counts. -/
def ofList (given : List (UInt32 × Key)) : KeyMap :=
  given.foldl (fun keys entry => keys.put entry.1 entry.2) []

/-- The versions, ascending. -/
def versions (keys : KeyMap) : List UInt32 := keys.map Prod.fst

/-- Keys written in base64, the first of them version `version`. -/
def numbered (version : UInt32) : List String → Except Error (List (UInt32 × Key))
  | [] => .ok []
  | text :: texts => do
    let key ← Key.ofBase64 text
    let rest ← numbered (version + 1) texts
    return (version, key) :: rest

/-- Keys written in base64, numbered from one. -/
def ofBase64 (texts : List String) : Except Error KeyMap := do
  return ofList (← numbered 1 texts)

end KeyMap

/-- A key map with the version that new fields are sealed under. -/
structure KeyRing where
  keys : KeyMap
  current : UInt32
  deriving DecidableEq

namespace KeyRing

/-- The ring of a key map that has no version 0 and has the current version. -/
def make (keys : KeyMap) (current : UInt32) : Except Error KeyRing :=
  if keys.isEmpty then .error (.invalidKey "at least one key is required")
  else if (keys.get? 0).isSome then .error (.invalidKey "key versions start at 1")
  else if (keys.get? current).isNone then
    .error (.invalidKey s!"current version {current.toNat} has no key")
  else .ok ⟨keys, current⟩

/-- Loads a key.  To load the same key again changes nothing; another one for a loaded version is
refused. -/
def insert (ring : KeyRing) (version : UInt32) (key : Key) : Except Error KeyRing :=
  if version = 0 then .error (.invalidKey "key versions start at 1")
  else
    match ring.keys.get? version with
    | none => .ok { ring with keys := ring.keys.put version key }
    | some loaded =>
      if loaded = key then .ok ring
      else .error (.invalidKey
        s!"version {version.toNat} is already loaded with different material")

/-- Makes a loaded version the current one. -/
def select (ring : KeyRing) (version : UInt32) : Except Error KeyRing :=
  if (ring.keys.get? version).isSome then .ok { ring with current := version }
  else .error (.keyNotFound version)

/-- Loads a key as the version after the current one and makes it the current one. -/
def promote (ring : KeyRing) (key : Key) : Except Error KeyRing :=
  if ring.current + 1 = 0 then .error (.invalidKey "key version space exhausted")
  else do
    let ring ← ring.insert (ring.current + 1) key
    ring.select (ring.current + 1)

end KeyRing

end ProfileGuard.Field
