import ProfileGuard.Bytes

/-!
# Canonical base64

The standard alphabet with required padding.  Reading is strict: a text is accepted only if it is
exactly what writing produces, so no byte sequence has two spellings.

* **`Text.Base64.encodeChars`** / **`Text.Base64.decodeChars?`** — on characters.
* **`Text.Base64.encode`** / **`Text.Base64.decode?`** — on texts.
* **`Text.Base64.sextet?_symbol`** — the alphabet and its index agree.
-/

namespace ProfileGuard.Text.Base64

/-- The character that stands for a 6-bit number. -/
def symbol (n : Nat) : Char :=
  if n < 26 then Char.ofNat (65 + n)
  else if n < 52 then Char.ofNat (71 + n)
  else if n < 62 then Char.ofNat (n - 4)
  else if n = 62 then '+'
  else '/'

/-- The 6-bit number that a character stands for. -/
def sextet? (c : Char) : Option Nat :=
  let n := c.toNat
  if 65 ≤ n ∧ n ≤ 90 then some (n - 65)
  else if 97 ≤ n ∧ n ≤ 122 then some (n - 71)
  else if 48 ≤ n ∧ n ≤ 57 then some (n + 4)
  else if c = '+' then some 62
  else if c = '/' then some 63
  else none

/-- Three bytes become four characters; one or two left over are padded with `=`. -/
def encodeChars : Bytes → List Char
  | [] => []
  | [a] => [symbol (a.toNat / 4), symbol (a.toNat % 4 * 16), '=', '=']
  | [a, b] =>
    [symbol (a.toNat / 4), symbol (a.toNat % 4 * 16 + b.toNat / 16),
      symbol (b.toNat % 16 * 4), '=']
  | a :: b :: c :: rest =>
    symbol (a.toNat / 4) :: symbol (a.toNat % 4 * 16 + b.toNat / 16) ::
      symbol (b.toNat % 16 * 4 + c.toNat / 64) :: symbol (c.toNat % 64) :: encodeChars rest

/-- The last group of four: padding is allowed here, and the bits it leaves over must be zero. -/
def decodeLast? (w x y z : Char) : Option Bytes := do
  let p ← sextet? w
  let q ← sextet? x
  let first := UInt8.ofNat (p * 4 + q / 16)
  if z = '=' then
    if y = '=' then
      if q % 16 = 0 then some [first] else none
    else do
      let r ← sextet? y
      if r % 4 = 0 then some [first, UInt8.ofNat (q % 16 * 16 + r / 4)] else none
  else do
    let r ← sextet? y
    let s ← sextet? z
    return [first, UInt8.ofNat (q % 16 * 16 + r / 4), UInt8.ofNat (r % 4 * 64 + s)]

/-- Four characters become three bytes, without padding before the last group. -/
def decodeChars? : List Char → Option Bytes
  | [] => some []
  | [w, x, y, z] => decodeLast? w x y z
  | w :: x :: y :: z :: rest => do
    let p ← sextet? w
    let q ← sextet? x
    let r ← sextet? y
    let s ← sextet? z
    let bytes ← decodeChars? rest
    return UInt8.ofNat (p * 4 + q / 16) :: UInt8.ofNat (q % 16 * 16 + r / 4) ::
      UInt8.ofNat (r % 4 * 64 + s) :: bytes
  | _ => none

/-- The base64 text of a byte sequence. -/
def encode (bytes : Bytes) : String := String.ofList (encodeChars bytes)

/-- The bytes of a canonical base64 text. -/
def decode? (text : String) : Option Bytes := decodeChars? text.toList

/-- The alphabet and its index agree on every 6-bit number. -/
theorem sextet?_symbol {n : Nat} (h : n < 64) : sextet? (symbol n) = some n := by
  have : ∀ m : Fin 64, sextet? (symbol m.val) = some m.val := by decide
  exact this ⟨n, h⟩

end ProfileGuard.Text.Base64
