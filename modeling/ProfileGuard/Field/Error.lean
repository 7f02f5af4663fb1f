import ProfileGuard.KeySource.Error

/-!
# Errors of field encryption

No wording carries a byte of a key, a plaintext or a nonce.

* **`Field.Error`** — why a field could not be sealed or opened, or keys not be taken.
* **`Field.Error.publicMessage`** — what an outsider is told.
-/

namespace ProfileGuard.Field

/-- Why a field could not be sealed or opened, or keys not be taken. -/
inductive Error where
  | encryptionFailed (reason : String)
  /-- The text is no envelope. -/
  | invalidCiphertext (reason : String)
  /-- The envelope names a version that is not loaded. -/
  | keyNotFound (version : UInt32)
  /-- The ciphertext is not authentic. -/
  | decryptionFailed
  | invalidKey (reason : String)
  /-- The plaintext is no text. -/
  | invalidText
  | keySource (error : KeySource.Error)
  deriving DecidableEq

namespace Error

/-- The wording. -/
def message? : Error → Option String
  | encryptionFailed reason => some ("Encryption failed: " ++ reason)
  | invalidCiphertext reason => some ("Invalid ciphertext: " ++ reason)
  | keyNotFound version => some s!"Key version {version.toNat} not found"
  | decryptionFailed => some "Decryption failed"
  | invalidKey reason => some ("Invalid key: " ++ reason)
  | invalidText => some "Decrypted payload is not valid UTF-8"
  | keySource error => error.message?

/-- The name of the cause; for a key source that of its own error. -/
def kind : Error → String
  | encryptionFailed _ => "EncryptionFailed"
  | invalidCiphertext _ => "InvalidCiphertext"
  | keyNotFound _ => "KeyNotFound"
  | decryptionFailed => "DecryptionFailed"
  | invalidKey _ => "InvalidKey"
  | invalidText => "InvalidUtf8"
  | keySource error => "KeySource." ++ error.kind

/-- What an outsider is told of any error. -/
def publicMessage (_ : Error) : String := "internal error"

end Error

end ProfileGuard.Field
