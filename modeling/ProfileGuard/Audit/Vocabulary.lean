/-!
# The words of audit events

* **`Audit.Action`**, **`Audit.ActorKind`**, **`Audit.Resource`**, **`Audit.ResultCode`** — what an event
  may say, each with its word in JSON.
* **`Audit.Outcome`** — how an action ended, with the reason if it did not succeed.
-/

namespace ProfileGuard.Audit

/-- What was done. -/
inductive Action where
  | create
  | read
  | update
  | delete
  | access
  deriving DecidableEq

namespace Action

/-- All actions. -/
def all : List Action := [create, read, update, delete, access]

/-- The word for an action. -/
def word : Action → String
  | create => "CREATE"
  | read => "READ"
  | update => "UPDATE"
  | delete => "DELETE"
  | access => "ACCESS"

/-- The action that a word stands for. -/
def ofWord? (text : String) : Option Action := all.find? (·.word = text)

end Action

/-- Who did it. -/
inductive ActorKind where
  | user
  | system
  | admin
  | service
  deriving DecidableEq

namespace ActorKind

/-- All kinds of actors. -/
def all : List ActorKind := [user, system, admin, service]

/-- The word for a kind of actor. -/
def word : ActorKind → String
  | user => "USER"
  | system => "SYSTEM"
  | admin => "ADMIN"
  | service => "SERVICE"

/-- The kind of actor that a word stands for. -/
def ofWord? (text : String) : Option ActorKind := all.find? (·.word = text)

end ActorKind

/-- What it was done to. -/
inductive Resource where
  | profile
  | address
  | device
  | preference
  | kycStatus
  deriving DecidableEq

namespace Resource

/-- All resources. -/
def all : List Resource := [profile, address, device, preference, kycStatus]

/-- The word for a resource. -/
def word : Resource → String
  | profile => "profile"
  | address => "address"
  | device => "device"
  | preference => "preference"
  | kycStatus => "kyc_status"

/-- The resource that a word stands for. -/
def ofWord? (text : String) : Option Resource := all.find? (·.word = text)

end Resource

/-- How an action ended, without the reason. -/
inductive ResultCode where
  | success
  | failure
  | denied
  deriving DecidableEq

namespace ResultCode

/-- All results. -/
def all : List ResultCode := [success, failure, denied]

/-- The word for a result. -/
def word : ResultCode → String
  | success => "SUCCESS"
  | failure => "FAILURE"
  | denied => "DENIED"

/-- The result that a word stands for. -/
def ofWord? (text : String) : Option ResultCode := all.find? (·.word = text)

end ResultCode

/-- How an action ended. -/
inductive Outcome where
  | success
  | failure (reason : String)
  | denied (reason : String)
  deriving DecidableEq

namespace Outcome

/-- The result without the reason. -/
def code : Outcome → ResultCode
  | success => .success
  | failure _ => .failure
  | denied _ => .denied

/-- The reason, if the action did not succeed. -/
def reason? : Outcome → Option String
  | success => none
  | failure reason | denied reason => some reason

end Outcome

end ProfileGuard.Audit
