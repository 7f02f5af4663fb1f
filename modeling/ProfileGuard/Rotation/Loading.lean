import ProfileGuard.Field.Settings
import ProfileGuard.KeySource.Static
import ProfileGuard.KeySource.Vault
import ProfileGuard.Rotation.Manager

/-!
# A manager from settings

* **`Rotation.Manager.ofSettings`** — a manager whose keys come from where the settings say.
-/

namespace ProfileGuard.Rotation

/-- When key changes are due by the settings. -/
def Schedule.ofSettings (s : Field.Settings) : Schedule := ⟨s.rotationPeriod, s.checkInterval⟩

namespace Manager

/-- A manager of the keys in the settings themselves. -/
def ofStatic (s : Field.Settings) (now : Instant) : Except Field.Error Manager := do
  let source ← KeySource.Static.ofBase64 s.keys s.current
  ofSnapshot source.snapshot (Bytes.ofText s.secret) (.ofSettings s) now

/-- A manager of the keys in a secret store, with the server after it was asked. -/
def ofVault (s : Field.Settings) (server : KeySource.Server) (now : Instant) :
    KeySource.Server × Except Field.Error Manager :=
  match KeySource.Vault.start s.vault.address s.vault.token s.vault.path
      KeySource.Vault.breakerSettings now with
  | .error e => (server, .error (.keySource e))
  | .ok vault =>
    let (snapshot, _, server) := (KeySource.Vault.snapshot now).run (vault, server)
    (server, ofSnapshot snapshot (Bytes.ofText s.secret) (.ofSettings s) now)

/-- A manager whose keys come from where the settings say, with the server of the secret store after it
was asked, if it was. -/
def ofSettings (s : Field.Settings) (server : KeySource.Server) (now : Instant) :
    KeySource.Server × Except Field.Error Manager :=
  match s.validate with
  | .error e => (server, .error (.invalidKey e.message))
  | .ok _ => if s.vaultEnabled then ofVault s server now else (server, ofStatic s now)

end Manager

end ProfileGuard.Rotation
