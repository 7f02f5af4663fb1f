import ProfileGuard.Json.Record
import ProfileGuard.Json.Writer

/-!
# Values when no store answers

* **`Defaults`** — static default values by key.
* **`Preferences`** — which notifications are on, with defaults that err on the safe side.
* **`Preferences.render`** / **`Preferences.read?`** — their JSON form, and the reading of it.
-/

namespace ProfileGuard

/-- Default values by key. -/
structure Defaults (α : Type) where
  entries : List (String × α) := []

namespace Defaults

variable {α : Type}

/-- The defaults with a value for a key, in place of an old one. -/
def set (d : Defaults α) (key : String) (value : α) : Defaults α :=
  ⟨(key, value) :: d.entries.filter (·.1 != key)⟩

/-- The default value of a key. -/
def get? (d : Defaults α) (key : String) : Option α := d.entries.lookup key

end Defaults

/-- Switches by name, in the order of the names and each name once. -/
abbrev Switches := List (String × Bool)

/-- The switches with one set. -/
def Switches.set (name : String) (on : Bool) : Switches → Switches
  | [] => [(name, on)]
  | (n, old) :: rest =>
    if name < n then (name, on) :: (n, old) :: rest
    else if name = n then (name, on) :: rest
    else (n, old) :: Switches.set name on rest

/-- The switches given one after another; of one name the last counts. -/
def Switches.ofList (given : List (String × Bool)) : Switches :=
  given.foldl (fun switches s => switches.set s.1 s.2) []

/-- Which notifications are on. -/
structure Preferences where
  notifications : Switches
  securityAlerts : Bool
  deriving DecidableEq

namespace Preferences

/-- Everything that protects the account is on, and advertising is off. -/
def safe : Preferences where
  notifications := Switches.ofList
    [("login_alerts", true), ("fraud_alerts", true), ("transaction_alerts", true),
      ("marketing_emails", false)]
  securityAlerts := true

/-- Whether a notification is on; an unknown one is off. -/
def isEnabled (p : Preferences) (name : String) : Bool := (p.notifications.lookup name).getD false

/-- The JSON form. -/
def render (p : Preferences) : List Char :=
  Json.Write.object
    [Json.Write.member "notification_settings" (Json.Write.object
        (p.notifications.map fun s => Json.Write.member s.1 (Json.Write.bool s.2))),
      Json.Write.member "security_alerts" (Json.Write.bool p.securityAlerts)]

/-- The JSON form as a text. -/
def text (p : Preferences) : String := String.ofList p.render

/-- The switches that an object holds. -/
def switches? : Json.Tree → Option Switches
  | .object members => do
    let given ← members.mapM fun (name, value) => do
      return (← Json.Piece.text? name, ← value.bool?)
    return Switches.ofList given
  | _ => none

/-- The preferences that a record holds. -/
def ofTree? (tree : Json.Tree) : Option Preferences := do
  match ← Json.fields? ["notification_settings", "security_alerts"] tree with
  | [some notifications, some securityAlerts] =>
    return ⟨← switches? notifications, ← securityAlerts.bool?⟩
  | _ => none

/-- The preferences that a JSON document holds. -/
def read? (document : Bytes) : Option Preferences := (Json.Tree.read? document).bind ofTree?

end Preferences

end ProfileGuard
