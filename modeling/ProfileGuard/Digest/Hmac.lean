import ProfileGuard.Digest.Sha256
import ProfileGuard.Text.Hex

/-!
# Keyed digests

HMAC with SHA-256 (RFC 2104).  A secret longer than one block is hashed first, a shorter one is
filled up with zero bytes.

* **`Digest.hmac`** — the 32-byte authentication code of a message under a secret.
* **`Digest.hmacHex`** — the same in lower-case hexadecimal.
-/

namespace ProfileGuard.Digest

/-- A secret as exactly one block of 64 bytes. -/
def blockKey (secret : Bytes) : Bytes :=
  let key := if 64 < secret.length then Sha256.hash secret else secret
  key ++ List.replicate (64 - key.length) 0

/-- The authentication code of a message under a secret. -/
def hmac (secret message : Bytes) : Bytes :=
  let key := blockKey secret
  let inner := Sha256.hash (key.map (· ^^^ 0x36) ++ message)
  Sha256.hash (key.map (· ^^^ 0x5c) ++ inner)

/-- The authentication code in lower-case hexadecimal. -/
def hmacHex (secret message : Bytes) : String := Text.Hex.encode (hmac secret message)

end ProfileGuard.Digest
