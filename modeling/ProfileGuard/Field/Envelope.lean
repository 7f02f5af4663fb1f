import ProfileGuard.Field.Key
import ProfileGuard.Text.Decimal

/-!
# Envelopes

A sealed field is stored as text: `v` and the version of its key, then the nonce and the ciphertext in
base64, with colons between the three parts.

* **`Field.Envelope`** — version and the two parts, not yet decoded.
* **`Field.Envelope.parse`** / **`Field.Envelope.decode`** — from a text to its parts, and to bytes.
* **`Field.Envelope.render`** — the text of a version, a nonce and a ciphertext.
-/

namespace ProfileGuard.Field

/-- The parts of an envelope, before the last two are decoded. -/
structure Envelope where
  version : UInt32
  nonce : List Char
  ciphertext : List Char
  deriving DecidableEq

/-- What stands before and after the first colon. -/
def splitColon? : List Char → Option (List Char × List Char)
  | [] => none
  | c :: cs =>
    if c = ':' then some ([], cs)
    else (splitColon? cs).map fun (before, after) => (c :: before, after)

/-- The three parts around the first two colons. -/
def threeParts? (cs : List Char) : Option (List Char × List Char × List Char) := do
  let (first, rest) ← splitColon? cs
  let (second, third) ← splitColon? rest
  return (first, second, third)

namespace Envelope

/-- The version named by the first part. -/
def readVersion : List Char → Except Error UInt32
  | 'v' :: digits =>
    match Text.Decimal.readWord? digits with
    | some version =>
      if version = 0 then .error (.invalidCiphertext "invalid key version") else .ok version
    | none => .error (.invalidCiphertext "invalid key version")
  | _ => .error (.invalidCiphertext "missing version prefix")

/-- The parts of an envelope given by its characters. -/
def parseChars (cs : List Char) : Except Error Envelope := do
  match threeParts? cs with
  | some (first, nonce, ciphertext) => return ⟨← readVersion first, nonce, ciphertext⟩
  | none => throw (.invalidCiphertext "expected 3 parts")

/-- The parts of an envelope. -/
def parse (text : String) : Except Error Envelope := parseChars text.toList

/-- The bytes of the two last parts. -/
def decode (e : Envelope) : Except Error (Bytes × Bytes) :=
  match Text.Base64.decodeChars? e.nonce with
  | none => .error (.invalidCiphertext "nonce is not valid base64")
  | some nonce =>
    match Text.Base64.decodeChars? e.ciphertext with
    | none => .error (.invalidCiphertext "ciphertext is not valid base64")
    | some ciphertext =>
      if nonce.length = 12 then .ok (nonce, ciphertext)
      else .error (.invalidCiphertext "invalid nonce length")

/-- The characters of an envelope. -/
def render (version : UInt32) (nonce : Nonce) (ciphertext : Bytes) : List Char :=
  'v' :: Text.Decimal.chars version.toNat ++ ':' :: Text.Base64.encodeChars nonce.bytes ++
    ':' :: Text.Base64.encodeChars ciphertext

/-- An envelope for the eyes of a developer; its parts need no escapes. -/
def description (e : Envelope) : String :=
  let nonce := String.ofList e.nonce
  let ciphertext := String.ofList e.ciphertext
  "Envelope \x7b version: " ++ Text.Decimal.text e.version.toNat ++ ", nonce: \"" ++ nonce ++
    "\", ciphertext: \"" ++ ciphertext ++ "\" \x7d"

end Envelope

end ProfileGuard.Field
