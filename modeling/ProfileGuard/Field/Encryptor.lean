import ProfileGuard.Digest.Hmac
import ProfileGuard.Field.Envelope
import ProfileGuard.Field.KeyRing

/-!
# The field encryptor

Single fields of personal data are sealed under the current key of a ring and opened under whichever
loaded key their envelope names.  A keyed hash makes fields comparable without opening them.

* **`Field.Encryptor`** — a key ring and the secret of the hash.
* **`Field.Encryptor.encrypt`** / **`Field.Encryptor.decrypt`** — a field into its envelope and back.
* **`Field.Encryptor.needsReEncryption`** / **`Field.Encryptor.reEncrypt`** — moving old envelopes to
  the current key.
-/

namespace ProfileGuard.Field

/-- A key ring with the secret of the lookup hash. -/
structure Encryptor where
  ring : KeyRing
  secret : Bytes

namespace Encryptor

/-- The encryptor of a key map. -/
def make (keys : KeyMap) (current : UInt32) (secret : Bytes) : Except Error Encryptor := do
  return ⟨← KeyRing.make keys current, secret⟩

/-- The encryptor of keys written in base64, numbered from one. -/
def ofBase64 (texts : List String) (current : UInt32) (secret : Bytes) :
    Except Error Encryptor := do
  make (← KeyMap.ofBase64 texts) current secret

/-- The version that new fields are sealed under. -/
def current (e : Encryptor) : UInt32 := e.ring.current

/-- The loaded versions, ascending. -/
def versions (e : Encryptor) : List UInt32 := e.ring.keys.versions

/-- A plaintext sealed under the current key with a fresh nonce. -/
def encrypt (e : Encryptor) (nonce : Nonce) (plaintext : Bytes) : Except Error String :=
  match e.ring.keys.get? e.current with
  | none => .error (.keyNotFound e.current)
  | some key => do
    let ciphertext ← key.encrypt nonce plaintext
    return String.ofList (Envelope.render e.current nonce ciphertext)

/-- The plaintext of an envelope and the version it was sealed under. -/
def decrypt (e : Encryptor) (envelope : String) : Except Error (Bytes × UInt32) := do
  let parsed ← Envelope.parse envelope
  match e.ring.keys.get? parsed.version with
  | none => throw (.keyNotFound parsed.version)
  | some key =>
    let (nonce, ciphertext) ← parsed.decode
    return (← key.decrypt nonce ciphertext, parsed.version)

/-- A text sealed under the current key. -/
def encryptText (e : Encryptor) (nonce : Nonce) (text : String) : Except Error String :=
  e.encrypt nonce (Bytes.ofText text)

/-- The text in an envelope and the version it was sealed under. -/
def decryptText (e : Encryptor) (envelope : String) : Except Error (String × UInt32) := do
  let (plaintext, version) ← e.decrypt envelope
  match Bytes.text? plaintext with
  | some text => return (text, version)
  | none => throw .invalidText

/-- The keyed hash of a text, by which equal fields are found. -/
def hash (e : Encryptor) (text : String) : String := Digest.hmacHex e.secret (Bytes.ofText text)

/-- Whether an envelope was sealed under an older version, or is malformed. -/
def needsReEncryption (e : Encryptor) (envelope : String) : Bool :=
  match Envelope.parse envelope with
  | .ok parsed => parsed.version < e.current
  | .error _ => true

/-- The envelope opened and sealed again under the current key. -/
def reEncrypt (e : Encryptor) (nonce : Nonce) (envelope : String) : Except Error String := do
  let (plaintext, _) ← e.decrypt envelope
  e.encrypt nonce plaintext

/-- Loads a key without making it the current one. -/
def addKey (e : Encryptor) (version : UInt32) (key : Key) : Except Error Encryptor := do
  return { e with ring := ← e.ring.insert version key }

/-- Makes a loaded version the current one. -/
def setCurrent (e : Encryptor) (version : UInt32) : Except Error Encryptor := do
  return { e with ring := ← e.ring.select version }

/-- Loads a key as the version after the current one and makes it the current one. -/
def promote (e : Encryptor) (key : Key) : Except Error Encryptor := do
  return { e with ring := ← e.ring.promote key }

/-- An encryptor for the eyes of a developer. -/
def description (e : Encryptor) : String :=
  let versions := ", ".intercalate (e.versions.map fun v => Text.Decimal.text v.toNat)
  "FieldEncryptor \x7b versions: [" ++ versions ++ "], current_version: " ++
    Text.Decimal.text e.current.toNat ++ ", .. \x7d"

end Encryptor

end ProfileGuard.Field
