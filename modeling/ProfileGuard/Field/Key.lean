import ProfileGuard.Cipher.Gcm
import ProfileGuard.Field.Error
import ProfileGuard.Text.Base64
import ProfileGuard.Text.Blank

/-!
# Data encryption keys

A key has 32 bytes and a nonce has 12.  Sealing under a key takes a nonce that is fresh each time;
opening fails as a whole whenever anything is wrong.

* **`Field.Key`** / **`Field.Nonce`** — bytes of the right number.
* **`Field.Key.ofBase64`** — a key from its text, outer blanks ignored.
* **`Field.Key.encrypt`** / **`Field.Key.decrypt`** — authenticated encryption under the key.
-/

namespace ProfileGuard.Field

/-- A data encryption key. -/
structure Key where
  bytes : Bytes
  length_eq : bytes.length = 32
  deriving DecidableEq

/-- A number used once.  The random source that nonces are drawn from is taken to answer each time, so that
sealing never fails for want of one. -/
structure Nonce where
  bytes : Bytes
  length_eq : bytes.length = 12
  deriving DecidableEq

/-- The most bytes that are sealed at once. -/
def sealLimit : Nat := 1 <<< 36

/-- The nonce made from the last 96 bits of a number. -/
def Nonce.ofNat (n : Nat) : Nonce := ⟨Bytes.ofNat 12 n, by simp [Bytes.ofNat]⟩

namespace Key

/-- The text that stands for any key where it would be shown. -/
def redacted : String := "FieldKey([REDACTED])"

/-- The key made of exactly 32 bytes. -/
def ofBytes (bytes : Bytes) : Except Error Key :=
  if h : bytes.length = 32 then .ok ⟨bytes, h⟩
  else .error (.invalidKey s!"key must be 32 bytes, got {bytes.length}")

/-- The key written in base64, outer blanks ignored. -/
def ofBase64 (text : String) : Except Error Key :=
  match Text.Base64.decode? (Text.trim text) with
  | some bytes => ofBytes bytes
  | none => .error (.invalidKey "key is not valid base64")

/-- The base64 text of a key. -/
def toBase64 (key : Key) : String := Text.Base64.encode key.bytes

/-- The key made from the last 256 bits of a number. -/
def ofNat (n : Nat) : Key := ⟨Bytes.ofNat 32 n, by simp [Bytes.ofNat]⟩

/-- The plaintext encrypted and authenticated under the key. -/
def encrypt (key : Key) (nonce : Nonce) (plaintext : Bytes) : Except Error Bytes :=
  if plaintext.length ≤ sealLimit then .ok (Cipher.Gcm.encrypt key.bytes nonce.bytes plaintext)
  else .error (.encryptionFailed "cipher")

/-- The plaintext of an authentic ciphertext. -/
def decrypt (key : Key) (nonce ciphertext : Bytes) : Except Error Bytes :=
  if nonce.length ≠ 12 ∨ sealLimit + 32 < ciphertext.length then .error .decryptionFailed
  else
    match Cipher.Gcm.decrypt? key.bytes nonce ciphertext with
    | some plaintext => .ok plaintext
    | none => .error .decryptionFailed

end Key

end ProfileGuard.Field
