import ProfileGuard.Bytes
import ProfileGuard.Text.Blank
import ProfileGuard.Text.Decimal
import ProfileGuard.Time.Duration

/-!
# Settings of field encryption

Nine variables say where the keys come from and how they are kept.  A blank variable counts as absent,
and blanks around numbers, around the switch and around each key are ignored.

* **`Field.Settings`** — the settings, with their defaults.
* **`Field.Settings.ofLookup`** — the settings given by variables.
* **`Field.Settings.validate`** — the first fault of settings that cannot be used.
-/

namespace ProfileGuard.Field

/-- How a secret store is reached. -/
structure VaultAccess where
  address : String := ""
  token : String := ""
  path : String := "secret/data/user-profile/encryption-keys"
  deriving DecidableEq

/-- Settings of field encryption. -/
structure Settings where
  /-- The keys in base64, the first of them version 1. -/
  keys : List String := []
  /-- The version that new fields are sealed under. -/
  current : UInt32 := 1
  /-- The secret of the lookup hash. -/
  secret : String := ""
  /-- After how many days the key should be changed. -/
  rotationDays : UInt32 := 90
  /-- How often the age of the key is looked at. -/
  checkInterval : Duration := Duration.ofSeconds 3600
  /-- Whether keys come from a secret store. -/
  vaultEnabled : Bool := false
  vault : VaultAccess := {}
  deriving DecidableEq

namespace Settings

/-- Why settings cannot be used. -/
inductive Error where
  | missing (name : String)
  | invalid (name : String) (reason : String)
  deriving DecidableEq

/-- The wording. -/
def Error.message : Error → String
  | missing name => "Missing configuration: " ++ name
  | invalid name reason => "Invalid configuration for " ++ name ++ ": " ++ reason

/-- The age at which the key should be changed. -/
def rotationPeriod (s : Settings) : Duration := Duration.ofSeconds (s.rotationDays.toNat * 86400)

/-! ### Reading variables -/

/-- The value of a variable that is not blank. -/
def given (lookup : String → Option String) (name : String) : Option String :=
  (lookup name).filter fun value => !Text.isBlankText value

/-- The keys between commas, those that are blank left out. -/
def keysOf (value : String) : List String :=
  ((Text.splitChars ',' value.toList).map fun part => String.ofList (Text.trimChars part)).filter
    (· != "")

/-- The number below `bound` that a variable gives, or the default. -/
def numberOr (lookup : String → Option String) (name : String) (bound default : Nat) :
    Except Error Nat :=
  match given lookup name with
  | none => .ok default
  | some value =>
    match Text.Decimal.read? bound (Text.trimChars value.toList) with
    | some n => .ok n
    | none => .error (.invalid name ("'" ++ value ++ "' is not a number"))

/-- The switch that a variable gives; off without it. -/
def switchOf (lookup : String → Option String) (name : String) : Except Error Bool :=
  match given lookup name with
  | none => .ok false
  | some value =>
    let word := Text.lowerAscii (Text.trim value)
    if word ∈ ["false", "0", "no"] then .ok false
    else if word ∈ ["true", "1", "yes"] then .ok true
    else .error (.invalid name ("'" ++ word ++ "' is not a boolean"))

/-- The settings given by variables. -/
def ofLookup (lookup : String → Option String) : Except Error Settings := do
  let d : Settings := {}
  let current ← numberOr lookup "ENCRYPTION_CURRENT_KEY_VERSION" UInt32.size d.current.toNat
  let rotationDays ← numberOr lookup "ENCRYPTION_KEY_ROTATION_DAYS" UInt32.size d.rotationDays.toNat
  let seconds ← numberOr lookup "ENCRYPTION_KEY_CHECK_INTERVAL_SECS" UInt64.size 3600
  let vaultEnabled ← switchOf lookup "VAULT_ENABLED"
  return {
    keys := ((given lookup "ENCRYPTION_KEYS").map keysOf).getD []
    current := UInt32.ofNat current
    secret := (given lookup "ENCRYPTION_HMAC_SECRET").getD ""
    rotationDays := UInt32.ofNat rotationDays
    checkInterval := Duration.ofSeconds seconds
    vaultEnabled
    vault := {
      address := (given lookup "VAULT_ADDR").getD ""
      token := (given lookup "VAULT_TOKEN").getD ""
      path := (given lookup "VAULT_KEY_PATH").getD d.vault.path } }

/-! ### Validation -/

/-- Checks that keys, secret, rotation and version can be used. -/
def validate (s : Settings) : Except Error Unit :=
  if s.vaultEnabled ∧ Text.isBlankText s.vault.address then .error (.missing "VAULT_ADDR")
  else if !s.vaultEnabled ∧ s.keys.isEmpty then .error (.missing "ENCRYPTION_KEYS")
  else if s.secret = "" then .error (.missing "ENCRYPTION_HMAC_SECRET")
  else if (Bytes.ofText s.secret).length < 32 then
    .error (.invalid "ENCRYPTION_HMAC_SECRET" "must be at least 32 characters")
  else if s.rotationDays = 0 ∨ s.rotationDays > 365 then
    .error (.invalid "ENCRYPTION_KEY_ROTATION_DAYS" "must be between 1 and 365")
  else if s.checkInterval = 0 then
    .error (.invalid "ENCRYPTION_KEY_CHECK_INTERVAL_SECS" "must be positive")
  else if s.current = 0 then
    .error (.invalid "ENCRYPTION_CURRENT_KEY_VERSION" "versions start at 1")
  else .ok ()

end Settings

end ProfileGuard.Field
