import ProfileGuard.Bytes

/-!
# The AES-256 block cipher

The forward direction of FIPS 197 with a 32-byte key: fourteen rounds on a state of sixteen bytes,
kept column by column.  Counter mode needs no inverse.

* **`Cipher.Aes.encrypt`** — one block under an expanded key.
* **`Cipher.Aes.expand`** — the fifteen round keys of a key.
-/

namespace ProfileGuard.Cipher.Aes

/-- The substitution table. -/
def substitution : Array UInt8 :=
  #[
    0x63, 0x7c, 0x77, 0x7b, 0xf2, 0x6b, 0x6f, 0xc5, 0x30, 0x01, 0x67, 0x2b,
    0xfe, 0xd7, 0xab, 0x76, 0xca, 0x82, 0xc9, 0x7d, 0xfa, 0x59, 0x47, 0xf0,
    0xad, 0xd4, 0xa2, 0xaf, 0x9c, 0xa4, 0x72, 0xc0, 0xb7, 0xfd, 0x93, 0x26,
    0x36, 0x3f, 0xf7, 0xcc, 0x34, 0xa5, 0xe5, 0xf1, 0x71, 0xd8, 0x31, 0x15,
    0x04, 0xc7, 0x23, 0xc3, 0x18, 0x96, 0x05, 0x9a, 0x07, 0x12, 0x80, 0xe2,
    0xeb, 0x27, 0xb2, 0x75, 0x09, 0x83, 0x2c, 0x1a, 0x1b, 0x6e, 0x5a, 0xa0,
    0x52, 0x3b, 0xd6, 0xb3, 0x29, 0xe3, 0x2f, 0x84, 0x53, 0xd1, 0x00, 0xed,
    0x20, 0xfc, 0xb1, 0x5b, 0x6a, 0xcb, 0xbe, 0x39, 0x4a, 0x4c, 0x58, 0xcf,
    0xd0, 0xef, 0xaa, 0xfb, 0x43, 0x4d, 0x33, 0x85, 0x45, 0xf9, 0x02, 0x7f,
    0x50, 0x3c, 0x9f, 0xa8, 0x51, 0xa3, 0x40, 0x8f, 0x92, 0x9d, 0x38, 0xf5,
    0xbc, 0xb6, 0xda, 0x21, 0x10, 0xff, 0xf3, 0xd2, 0xcd, 0x0c, 0x13, 0xec,
    0x5f, 0x97, 0x44, 0x17, 0xc4, 0xa7, 0x7e, 0x3d, 0x64, 0x5d, 0x19, 0x73,
    0x60, 0x81, 0x4f, 0xdc, 0x22, 0x2a, 0x90, 0x88, 0x46, 0xee, 0xb8, 0x14,
    0xde, 0x5e, 0x0b, 0xdb, 0xe0, 0x32, 0x3a, 0x0a, 0x49, 0x06, 0x24, 0x5c,
    0xc2, 0xd3, 0xac, 0x62, 0x91, 0x95, 0xe4, 0x79, 0xe7, 0xc8, 0x37, 0x6d,
    0x8d, 0xd5, 0x4e, 0xa9, 0x6c, 0x56, 0xf4, 0xea, 0x65, 0x7a, 0xae, 0x08,
    0xba, 0x78, 0x25, 0x2e, 0x1c, 0xa6, 0xb4, 0xc6, 0xe8, 0xdd, 0x74, 0x1f,
    0x4b, 0xbd, 0x8b, 0x8a, 0x70, 0x3e, 0xb5, 0x66, 0x48, 0x03, 0xf6, 0x0e,
    0x61, 0x35, 0x57, 0xb9, 0x86, 0xc1, 0x1d, 0x9e, 0xe1, 0xf8, 0x98, 0x11,
    0x69, 0xd9, 0x8e, 0x94, 0x9b, 0x1e, 0x87, 0xe9, 0xce, 0x55, 0x28, 0xdf,
    0x8c, 0xa1, 0x89, 0x0d, 0xbf, 0xe6, 0x42, 0x68, 0x41, 0x99, 0x2d, 0x0f,
    0xb0, 0x54, 0xbb, 0x16]

/-- The substitute of a byte. -/
def substitute (b : UInt8) : UInt8 := substitution.getD b.toNat 0

/-- Multiplication by `x` in the field of 256 elements. -/
def double (b : UInt8) : UInt8 := (b <<< 1) ^^^ (if b < 0x80 then 0 else 0x1b)

/-- Byte-wise exclusive or. -/
def xor (xs ys : Bytes) : Bytes := List.zipWith (· ^^^ ·) xs ys

/-! ### Key expansion -/

/-- The word made from the previous word at position `i` of the expanded key. -/
def scheduleWord (i : Nat) (factor : UInt8) (previous : Bytes) : Bytes :=
  if i % 8 = 0 then
    xor ((previous.drop 1 ++ previous.take 1).map substitute) [factor, 0, 0, 0]
  else if i % 8 = 4 then previous.map substitute
  else previous

/-- `count` more words from position `i` on, newest first; `factor` is the next round factor. -/
def expandWords : (count i : Nat) → (factor : UInt8) → List Bytes → List Bytes
  | 0, _, _, newest => newest
  | count + 1, i, factor, newest =>
    let word := xor (newest.getD 7 []) (scheduleWord i factor (newest.headD []))
    expandWords count (i + 1) (if i % 8 = 0 then double factor else factor) (word :: newest)

/-- A list cut into pieces of `width`, `count` of them. -/
def pieces (width count : Nat) (xs : Bytes) : List Bytes :=
  (List.range count).map fun i => (xs.drop (width * i)).take width

/-- The fifteen round keys of a 32-byte key. -/
def expand (key : Bytes) : List Bytes :=
  let words := (expandWords 52 8 1 (pieces 4 8 key).reverse).reverse
  pieces 16 15 words.flatten

/-! ### Rounds -/

/-- The rows of the state moved left by their number. -/
def shiftRows : Bytes → Bytes
  | [a0, a1, a2, a3, b0, b1, b2, b3, c0, c1, c2, c3, d0, d1, d2, d3] =>
    [a0, b1, c2, d3, b0, c1, d2, a3, c0, d1, a2, b3, d0, a1, b2, c3]
  | state => state

/-- Each column multiplied by the fixed polynomial. -/
def mixColumns : Bytes → Bytes
  | p :: q :: r :: s :: rest =>
    (double p ^^^ double q ^^^ q ^^^ r ^^^ s) :: (p ^^^ double q ^^^ double r ^^^ r ^^^ s) ::
      (p ^^^ q ^^^ double r ^^^ double s ^^^ s) :: (double p ^^^ p ^^^ q ^^^ r ^^^ double s) ::
      mixColumns rest
  | state => state

/-- The remaining rounds; the last one leaves the columns unmixed. -/
def rounds (state : Bytes) : List Bytes → Bytes
  | [] => state
  | [last] => xor (shiftRows (state.map substitute)) last
  | key :: keys => rounds (xor (mixColumns (shiftRows (state.map substitute))) key) keys

/-- One block of sixteen bytes under the round keys. -/
def encrypt (roundKeys : List Bytes) (block : Bytes) : Bytes :=
  match roundKeys with
  | [] => block
  | key :: keys => rounds (xor block key) keys

end ProfileGuard.Cipher.Aes
