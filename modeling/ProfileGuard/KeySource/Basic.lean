import ProfileGuard.Field.Encryptor

/-!
# Sources of keys

A source names its current version, lists its versions and gives the key of each.  Asking it may change
something, such as the state of a guard, so its answers live in a monad.

* **`KeySource.Snapshot`** — all keys of a source with the current version.
* **`KeySource.Reader`** — the three questions.
* **`KeySource.Reader.snapshot`** — a snapshot put together from single answers.
-/

namespace ProfileGuard.KeySource

/-- All keys of a source with the current version. -/
structure Snapshot where
  current : UInt32
  keys : Field.KeyMap
  deriving DecidableEq

/-- The encryptor of a snapshot. -/
def Snapshot.encryptor (s : Snapshot) (secret : Bytes) : Except Field.Error Field.Encryptor :=
  Field.Encryptor.make s.keys s.current secret

/-- The questions that a source answers. -/
structure Reader (m : Type → Type) where
  key : UInt32 → m (Except Error Field.Key)
  current : m (Except Error UInt32)
  versions : m (Except Error (List UInt32))

namespace Reader

variable {m : Type → Type} [Monad m]

/-- Adds the keys of the listed versions, one question for each, until one of them fails. -/
def collect (r : Reader m) (keys : Field.KeyMap) : List UInt32 → m (Except Error Field.KeyMap)
  | [] => pure (.ok keys)
  | version :: versions => do
    match ← r.key version with
    | .ok key => r.collect (keys.put version key) versions
    | .error e => pure (.error e)

/-- A snapshot put together from single answers: the current version, the list, then each key. -/
def snapshot (r : Reader m) : m (Except Error Snapshot) := do
  match ← r.current with
  | .error e => pure (.error e)
  | .ok current =>
    match ← r.versions with
    | .error e => pure (.error e)
    | .ok versions =>
      match ← r.collect [] versions with
      | .error e => pure (.error e)
      | .ok keys => pure (.ok ⟨current, keys⟩)

end Reader

end ProfileGuard.KeySource
