import ProfileGuard.Failure

/-!
# Why keys cannot be had

* **`KeySource.Error`** — why a source could not give a key, a version or the list of versions.
* **`KeySource.Error.message?`** — the wording; there is none for a request that got no answer.
-/

namespace ProfileGuard.KeySource

/-- Why a key source could not answer. -/
inductive Error where
  /-- The source answered that it cannot serve now. -/
  | unavailable (reason : String)
  /-- The source could not be asked, or gave no answer that can be read. -/
  | unreachable
  | secretNotFound (path : String)
  | permissionDenied (reason : String)
  /-- The secret does not have the expected shape. -/
  | invalidStructure (reason : String)
  | versionNotFound (version : UInt32)
  /-- The stored key is not base64. -/
  | invalidEncoding (version : UInt32)
  /-- The guard around the source refused or gave up. -/
  | guarded (failure : Failure)
  deriving DecidableEq

namespace Error

/-- The wording. -/
def message? : Error → Option String
  | unavailable reason => some ("Key source unavailable: " ++ reason)
  | unreachable => none
  | secretNotFound path => some ("Secret not found at path: " ++ path)
  | permissionDenied reason => some ("Permission denied: " ++ reason)
  | invalidStructure reason => some ("Invalid secret structure: " ++ reason)
  | versionNotFound version => some s!"Key version {version.toNat} not found in key source"
  | invalidEncoding version => some s!"Key version {version.toNat} is not valid base64"
  | guarded failure => some failure.message

/-- The name of the cause; for a guard that of its own failure. -/
def kind : Error → String
  | unavailable _ | unreachable => "Unavailable"
  | secretNotFound _ => "SecretNotFound"
  | permissionDenied _ => "PermissionDenied"
  | invalidStructure _ => "InvalidStructure"
  | versionNotFound _ => "VersionNotFound"
  | invalidEncoding _ => "InvalidEncoding"
  | guarded failure => "Platform." ++ failure.kind

/-- Whether asking again may help. -/
def isRetryable : Error → Bool
  | unavailable _ | unreachable => true
  | guarded failure => failure.isRetryable
  | _ => false

end Error

end ProfileGuard.KeySource
