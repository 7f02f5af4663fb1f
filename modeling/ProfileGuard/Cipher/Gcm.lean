import ProfileGuard.Cipher.Aes

/-!
# Galois/counter mode

Authenticated encryption as NIST SP 800-38D specifies it, with a 12-byte nonce, a 16-byte tag that
follows the ciphertext, and no additional data.  The mode is written over an arbitrary block
function; AES-256 is put in at the end.

* **`Cipher.Gcm.encrypt`** — ciphertext and tag of a plaintext.
* **`Cipher.Gcm.decrypt?`** — the plaintext, if the tag is the one that encryption would have made.
* **`Cipher.Gcm.decrypt?_encrypt`** — decryption undoes encryption.
* **`Cipher.Gcm.decrypt?_eq_some_iff`** — nothing else decrypts.
-/

namespace ProfileGuard.Cipher.Gcm

/-- A block of 128 bits; its first byte is the most significant one. -/
abbrev Block := BitVec 128

/-- The block whose bytes are given, most significant first. -/
def Block.ofBytes (bytes : Bytes) : Block := BitVec.ofNat 128 (Bytes.toNat bytes)

/-- The sixteen bytes of a block. -/
def Block.bytes (b : Block) : Bytes := Bytes.ofNat 16 b.toNat

/-! ### Counter mode -/

/-- The counter block `i` steps after `b`: only the last 32 bits count, and they wrap. -/
def advance (b : Block) (i : Nat) : Block :=
  (b.extractLsb' 32 96) ++ (b.extractLsb' 0 32 + BitVec.ofNat 32 i)

/-- At least `length` bytes of key stream, from the counter block after `start`. -/
def keystream (enc : Block → Block) (start : Block) (length : Nat) : Bytes :=
  (List.range ((length + 15) / 16)).flatMap fun i => (enc (advance start (i + 1))).bytes

/-- The data combined with the key stream. -/
def crypt (enc : Block → Block) (start : Block) (data : Bytes) : Bytes :=
  List.zipWith (· ^^^ ·) data (keystream enc start data.length)

/-! ### The tag -/

/-- One step of the multiplication: the bit of the left factor, then a shift of the right one. -/
def mulStep (x : Block) (zv : Block × Block) (i : Nat) : Block × Block :=
  let z := if x.getMsbD i then zv.1 ^^^ zv.2 else zv.1
  let v := if zv.2.getLsbD 0 then (zv.2 >>> 1) ^^^ (0xe1#128 <<< 120) else zv.2 >>> 1
  (z, v)

/-- The product in the field of 2^128 elements. -/
def mul (x y : Block) : Block := ((List.range 128).foldl (mulStep x) (0, y)).1

/-- The blocks of a byte sequence, the last one filled up with zero bytes. -/
def blocks (data : Bytes) : List Block :=
  (List.range ((data.length + 15) / 16)).map fun i =>
    let piece := (data.drop (16 * i)).take 16
    Block.ofBytes (piece ++ List.replicate (16 - piece.length) 0)

/-- The keyed checksum of blocks. -/
def ghash (key : Block) (xs : List Block) : Block := xs.foldl (fun y x => mul (y ^^^ x) key) 0

/-- The first counter block of a nonce. -/
def start (nonce : Bytes) : Block := Block.ofBytes (nonce ++ [0, 0, 0, 1])

/-- The sixteen bytes that authenticate a ciphertext. -/
def tag (enc : Block → Block) (nonce ciphertext : Bytes) : Bytes :=
  let sum := ghash (enc 0) (blocks ciphertext ++ [BitVec.ofNat 128 (ciphertext.length * 8)])
  (enc (start nonce) ^^^ sum).bytes

/-! ### Authenticated encryption -/

/-- The ciphertext of a plaintext, followed by its tag. -/
def encryptWith (enc : Block → Block) (nonce plaintext : Bytes) : Bytes :=
  let ciphertext := crypt enc (start nonce) plaintext
  ciphertext ++ tag enc nonce ciphertext

/-- The plaintext of a sealed text whose tag is right. -/
def decryptWith? (enc : Block → Block) (nonce sealed : Bytes) : Option Bytes :=
  if sealed.length < 16 then none
  else
    let ciphertext := sealed.take (sealed.length - 16)
    if sealed.drop (sealed.length - 16) = tag enc nonce ciphertext then
      some (crypt enc (start nonce) ciphertext)
    else none

/-- The AES-256 permutation under a key, on blocks. -/
def aes (key : Bytes) : Block → Block :=
  let roundKeys := Aes.expand key
  fun b => Block.ofBytes (Aes.encrypt roundKeys b.bytes)

/-- AES-256-GCM encryption. -/
def encrypt (key nonce plaintext : Bytes) : Bytes := encryptWith (aes key) nonce plaintext

/-- AES-256-GCM decryption. -/
def decrypt? (key nonce sealed : Bytes) : Option Bytes := decryptWith? (aes key) nonce sealed

/-! ### Decryption undoes encryption -/

theorem length_bytes (b : Block) : b.bytes.length = 16 := by simp [Block.bytes, Bytes.ofNat]

theorem length_tag (enc : Block → Block) (nonce ciphertext : Bytes) :
    (tag enc nonce ciphertext).length = 16 := length_bytes _

theorem length_keystream (enc : Block → Block) (b : Block) (n : Nat) :
    (keystream enc b n).length = 16 * ((n + 15) / 16) := by
  simp [keystream, List.length_flatMap, length_bytes, List.map_const', Nat.mul_comm]

theorem length_crypt (enc : Block → Block) (b : Block) (data : Bytes) :
    (crypt enc b data).length = data.length := by
  simp [crypt, length_keystream]
  omega

/-- Combining twice with the same long enough key stream changes nothing. -/
theorem zipWith_xor_cancel (data ks : Bytes) (h : data.length ≤ ks.length) :
    List.zipWith (· ^^^ ·) (List.zipWith (· ^^^ ·) data ks) ks = data := by
  induction data generalizing ks with
  | nil => simp
  | cons d ds ih =>
    cases ks with
    | nil => simp at h
    | cons k ks =>
      simp only [List.length_cons, Nat.add_le_add_iff_right] at h
      rw [List.zipWith_cons_cons, List.zipWith_cons_cons, ih ks h, UInt8.xor_assoc, UInt8.xor_self,
        UInt8.xor_zero]

/-- Counter mode is its own inverse. -/
theorem crypt_crypt (enc : Block → Block) (b : Block) (data : Bytes) :
    crypt enc b (crypt enc b data) = data := by
  have h : data.length ≤ (keystream enc b data.length).length := by
    rw [length_keystream]; omega
  rw [crypt, length_crypt, crypt]
  exact zipWith_xor_cancel data _ h

/-- Decryption undoes encryption. -/
theorem decryptWith?_encryptWith (enc : Block → Block) (nonce plaintext : Bytes) :
    decryptWith? enc nonce (encryptWith enc nonce plaintext) = some plaintext := by
  simp [decryptWith?, encryptWith, length_tag, crypt_crypt]

theorem decrypt?_encrypt (key nonce plaintext : Bytes) :
    decrypt? key nonce (encrypt key nonce plaintext) = some plaintext :=
  decryptWith?_encryptWith _ _ _

/-- A sealed text whose tag is right is what encryption makes of its plaintext: counter mode leads back
to the ciphertext, and so to the same tag. -/
theorem encryptWith_of_decryptWith? {enc : Block → Block} {nonce sealed plaintext : Bytes}
    (h : decryptWith? enc nonce sealed = some plaintext) :
    encryptWith enc nonce plaintext = sealed := by
  unfold decryptWith? at h
  split at h
  · cases h
  · dsimp only at h
    split at h
    · rename_i htag
      obtain rfl := Option.some.inj h
      rw [encryptWith, crypt_crypt, ← htag]
      exact List.take_append_drop _ sealed
    · cases h

theorem decrypt?_eq_some_iff {key nonce sealed plaintext : Bytes} :
    decrypt? key nonce sealed = some plaintext ↔ sealed = encrypt key nonce plaintext := by
  constructor
  · intro h
    exact (encryptWith_of_decryptWith? h).symm
  · rintro rfl
    exact decrypt?_encrypt key nonce plaintext

/-- What encryption makes of a plaintext is longer by the tag. -/
theorem length_encrypt (key nonce plaintext : Bytes) :
    (encrypt key nonce plaintext).length = plaintext.length + 16 := by
  rw [encrypt, encryptWith, List.length_append, length_crypt, length_tag]

end ProfileGuard.Cipher.Gcm
