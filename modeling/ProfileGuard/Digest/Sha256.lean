import ProfileGuard.Bytes

/-!
# SHA-256

The hash function of FIPS 180-4, on byte sequences.  A message is padded to whole 64-byte blocks and
each block is compressed into eight chaining words.

* **`Digest.Sha256.hash`** — the 32-byte digest of a message.
* **`Digest.Sha256.length_hash`** — a digest has 32 bytes.
-/

namespace ProfileGuard.Digest.Sha256

/-- The eight chaining words. -/
structure Chain where
  a : UInt32
  b : UInt32
  c : UInt32
  d : UInt32
  e : UInt32
  f : UInt32
  g : UInt32
  h : UInt32

/-- The first 32 fractional bits of the cube roots of the first 64 primes. -/
def roundConstants : List UInt32 :=
  [
    0x428a2f98, 0x71374491, 0xb5c0fbcf, 0xe9b5dba5, 0x3956c25b, 0x59f111f1,
    0x923f82a4, 0xab1c5ed5, 0xd807aa98, 0x12835b01, 0x243185be, 0x550c7dc3,
    0x72be5d74, 0x80deb1fe, 0x9bdc06a7, 0xc19bf174, 0xe49b69c1, 0xefbe4786,
    0x0fc19dc6, 0x240ca1cc, 0x2de92c6f, 0x4a7484aa, 0x5cb0a9dc, 0x76f988da,
    0x983e5152, 0xa831c66d, 0xb00327c8, 0xbf597fc7, 0xc6e00bf3, 0xd5a79147,
    0x06ca6351, 0x14292967, 0x27b70a85, 0x2e1b2138, 0x4d2c6dfc, 0x53380d13,
    0x650a7354, 0x766a0abb, 0x81c2c92e, 0x92722c85, 0xa2bfe8a1, 0xa81a664b,
    0xc24b8b70, 0xc76c51a3, 0xd192e819, 0xd6990624, 0xf40e3585, 0x106aa070,
    0x19a4c116, 0x1e376c08, 0x2748774c, 0x34b0bcb5, 0x391c0cb3, 0x4ed8aa4a,
    0x5b9cca4f, 0x682e6ff3, 0x748f82ee, 0x78a5636f, 0x84c87814, 0x8cc70208,
    0x90befffa, 0xa4506ceb, 0xbef9a3f7, 0xc67178f2]

/-- The first 32 fractional bits of the square roots of the first eight primes. -/
def initial : Chain :=
  ⟨
    0x6a09e667, 0xbb67ae85, 0x3c6ef372, 0xa54ff53a, 0x510e527f, 0x9b05688c,
    0x1f83d9ab, 0x5be0cd19⟩

/-- Rotation to the right. -/
def rotate (n : UInt32) (x : UInt32) : UInt32 := (x >>> n) ||| (x <<< (32 - n))

/-! ### The message schedule -/

/-- The big-endian words of a byte sequence; a last group shorter than four is dropped. -/
def words : Bytes → List UInt32
  | p :: q :: r :: s :: rest =>
    ((p.toUInt32 <<< 24) ||| (q.toUInt32 <<< 16) ||| (r.toUInt32 <<< 8) ||| s.toUInt32) ::
      words rest
  | _ => []

/-- The next schedule word, from the earlier ones with the newest first. -/
def nextWord (newest : List UInt32) : UInt32 :=
  let w2 := newest.getD 1 0
  let w7 := newest.getD 6 0
  let w15 := newest.getD 14 0
  let w16 := newest.getD 15 0
  let s0 := rotate 7 w15 ^^^ rotate 18 w15 ^^^ (w15 >>> 3)
  let s1 := rotate 17 w2 ^^^ rotate 19 w2 ^^^ (w2 >>> 10)
  w16 + s0 + w7 + s1

/-- `count` more schedule words in front of those given, newest first. -/
def extend : (count : Nat) → List UInt32 → List UInt32
  | 0, newest => newest
  | count + 1, newest => extend count (nextWord newest :: newest)

/-- The 64 schedule words of a block, oldest first. -/
def schedule (block : Bytes) : List UInt32 := (extend 48 (words block).reverse).reverse

/-! ### Compression -/

/-- One round with its constant and its schedule word. -/
def round (s : Chain) (kw : UInt32 × UInt32) : Chain :=
  let s1 := rotate 6 s.e ^^^ rotate 11 s.e ^^^ rotate 25 s.e
  let choice := (s.e &&& s.f) ^^^ (~~~s.e &&& s.g)
  let t1 := s.h + s1 + choice + kw.1 + kw.2
  let s0 := rotate 2 s.a ^^^ rotate 13 s.a ^^^ rotate 22 s.a
  let majority := (s.a &&& s.b) ^^^ (s.a &&& s.c) ^^^ (s.b &&& s.c)
  ⟨t1 + (s0 + majority), s.a, s.b, s.c, s.d + t1, s.e, s.f, s.g⟩

/-- The chaining words after a block. -/
def compress (s : Chain) (block : Bytes) : Chain :=
  let t := (roundConstants.zip (schedule block)).foldl round s
  ⟨s.a + t.a, s.b + t.b, s.c + t.c, s.d + t.d, s.e + t.e, s.f + t.f, s.g + t.g, s.h + t.h⟩

/-! ### Padding and the digest -/

/-- A one bit, zeros up to eight bytes short of a block, and the length in bits. -/
def padding (length : Nat) : Bytes :=
  0x80 :: (List.replicate ((119 - length % 64) % 64) 0 ++ Bytes.ofNat 8 (length * 8))

/-- The padded message cut into blocks of 64 bytes. -/
def blocks (message : Bytes) : List Bytes :=
  let padded := message ++ padding message.length
  (List.range (padded.length / 64)).map fun i => (padded.drop (64 * i)).take 64

/-- The four bytes of a word, most significant first. -/
def wordBytes (w : UInt32) : Bytes :=
  [(w >>> 24).toUInt8, (w >>> 16).toUInt8, (w >>> 8).toUInt8, w.toUInt8]

/-- The chaining words as 32 bytes. -/
def Chain.bytes (s : Chain) : Bytes :=
  [s.a, s.b, s.c, s.d, s.e, s.f, s.g, s.h].flatMap wordBytes

/-- The SHA-256 digest of a message. -/
def hash (message : Bytes) : Bytes := ((blocks message).foldl compress initial).bytes

/-- A digest has 32 bytes. -/
theorem length_hash (message : Bytes) : (hash message).length = 32 := rfl

end ProfileGuard.Digest.Sha256
