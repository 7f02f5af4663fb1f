import ProfileGuard.Bytes

/-!
# JSON documents as written

The grammar of RFC 8259 on bytes.  A document becomes a tree that keeps numbers digit by digit and
strings piece by piece, so that a part nobody asks for is checked against the grammar only: its
strings need not be well-formed UTF-8 and its numbers need not fit any type.

* **`Json.Tree`** — a document as written.
* **`Json.Tree.read?`** — the tree of a whole document, blanks around it allowed.
* **`Json.Piece.text?`** — the text that the pieces of a string stand for.
-/

namespace ProfileGuard.Json

/-- A piece of a string: a byte, written as it is or by a short escape, or a `\u` code unit. -/
inductive Piece where
  | byte (b : UInt8)
  | unit (u : UInt16)

/-- A number as written; digits are their values. -/
structure Numeral where
  negative : Bool
  whole : List Nat
  fraction : List Nat
  /-- Whether the exponent is negative, and its digits. -/
  exponent : Option (Bool × List Nat)

/-- A document as written, without the blanks between its tokens. -/
inductive Tree where
  | null
  | bool (b : Bool)
  | number (n : Numeral)
  | string (body : List Piece)
  | array (items : List Tree)
  | object (members : List (List Piece × Tree))

/-! ### Tokens -/

/-- Space, tab, line feed and carriage return. -/
def isSpace (b : UInt8) : Bool := b == 0x20 || b == 0x09 || b == 0x0A || b == 0x0D

/-- The document after its leading blanks. -/
def skipSpace (bs : Bytes) : Bytes := bs.dropWhile isSpace

/-- An ASCII digit. -/
def isDigit (b : UInt8) : Bool := 0x30 ≤ b && b ≤ 0x39

/-- The longest run of digits at the front, as values, and what follows it. -/
def digitRun (bs : Bytes) : List Nat × Bytes :=
  ((bs.takeWhile isDigit).map fun b => b.toNat - 0x30, bs.dropWhile isDigit)

/-- A non-empty run of digits. -/
def someDigits? (bs : Bytes) : Option (List Nat × Bytes) :=
  match digitRun bs with
  | ([], _) => none
  | run => some run

/-- The whole part: one zero, or digits that do not begin with zero. -/
def readWhole? (bs : Bytes) : Option (List Nat × Bytes) :=
  match digitRun bs with
  | ([], _) => none
  | (0 :: _ :: _, _) => none
  | run => some run

/-- The digits after a point; none without a point. -/
def readFraction? : Bytes → Option (List Nat × Bytes)
  | 0x2E :: rest => someDigits? rest
  | bs => some ([], bs)

/-- The digits of an exponent after its sign. -/
def readSigned? : Bytes → Option ((Bool × List Nat) × Bytes)
  | 0x2B :: rest => (someDigits? rest).map fun (ds, bs) => ((false, ds), bs)
  | 0x2D :: rest => (someDigits? rest).map fun (ds, bs) => ((true, ds), bs)
  | bs => (someDigits? bs).map fun (ds, bs) => ((false, ds), bs)

/-- The exponent after `e` or `E`, if there is one. -/
def readExponent? : Bytes → Option (Option (Bool × List Nat) × Bytes)
  | 0x65 :: rest => (readSigned? rest).map fun (e, bs) => (some e, bs)
  | 0x45 :: rest => (readSigned? rest).map fun (e, bs) => (some e, bs)
  | bs => some (none, bs)

/-- A number after its sign. -/
def readUnsigned? (negative : Bool) (bs : Bytes) : Option (Numeral × Bytes) := do
  let (whole, bs) ← readWhole? bs
  let (fraction, bs) ← readFraction? bs
  let (exponent, bs) ← readExponent? bs
  return (⟨negative, whole, fraction, exponent⟩, bs)

/-- A number. -/
def readNumeral? : Bytes → Option (Numeral × Bytes)
  | 0x2D :: rest => readUnsigned? true rest
  | bs => readUnsigned? false bs

/-- The value of a hexadecimal digit. -/
def hexValue? (b : UInt8) : Option UInt16 :=
  if 0x30 ≤ b ∧ b ≤ 0x39 then some (b - 0x30).toUInt16
  else if 0x41 ≤ b ∧ b ≤ 0x46 then some (b - 0x37).toUInt16
  else if 0x61 ≤ b ∧ b ≤ 0x66 then some (b - 0x57).toUInt16
  else none

/-- The code unit written by four hexadecimal digits. -/
def codeUnit? (a b c d : UInt8) : Option UInt16 := do
  let a ← hexValue? a
  let b ← hexValue? b
  let c ← hexValue? c
  let d ← hexValue? d
  return a * 4096 + b * 256 + c * 16 + d

/-- The byte that a short escape stands for. -/
def shortEscape? (b : UInt8) : Option UInt8 :=
  if b = 0x22 ∨ b = 0x5C ∨ b = 0x2F then some b
  else if b = 0x62 then some 0x08
  else if b = 0x66 then some 0x0C
  else if b = 0x6E then some 0x0A
  else if b = 0x72 then some 0x0D
  else if b = 0x74 then some 0x09
  else none

/-- The pieces of a string up to its closing quote, and what follows the quote. -/
def readPieces? : Bytes → Option (List Piece × Bytes)
  | [] => none
  | 0x22 :: rest => some ([], rest)
  | 0x5C :: 0x75 :: a :: b :: c :: d :: rest => do
    let u ← codeUnit? a b c d
    let (pieces, rest) ← readPieces? rest
    return (.unit u :: pieces, rest)
  | 0x5C :: e :: rest => do
    let b ← shortEscape? e
    let (pieces, rest) ← readPieces? rest
    return (.byte b :: pieces, rest)
  | b :: rest =>
    if b < 0x20 then none
    else (readPieces? rest).map fun (pieces, rest) => (.byte b :: pieces, rest)

/-! ### Values -/

mutual

/-- A value at the front, and what follows it; `fuel` bounds the number of calls. -/
def readValue? : (fuel : Nat) → Bytes → Option (Tree × Bytes)
  | 0, _ => none
  | fuel + 1, bs =>
    match bs with
    | 0x6E :: 0x75 :: 0x6C :: 0x6C :: rest => some (.null, rest)
    | 0x74 :: 0x72 :: 0x75 :: 0x65 :: rest => some (.bool true, rest)
    | 0x66 :: 0x61 :: 0x6C :: 0x73 :: 0x65 :: rest => some (.bool false, rest)
    | 0x22 :: rest => (readPieces? rest).map fun (body, rest) => (.string body, rest)
    | 0x5B :: rest =>
      match skipSpace rest with
      | 0x5D :: rest => some (.array [], rest)
      | rest => (readItems? fuel rest).map fun (items, rest) => (.array items, rest)
    | 0x7B :: rest =>
      match skipSpace rest with
      | 0x7D :: rest => some (.object [], rest)
      | rest => (readMembers? fuel rest).map fun (members, rest) => (.object members, rest)
    | bs => (readNumeral? bs).map fun (n, rest) => (.number n, rest)

/-- One or more values between commas up to a closing bracket. -/
def readItems? : (fuel : Nat) → Bytes → Option (List Tree × Bytes)
  | 0, _ => none
  | fuel + 1, bs => do
    let (item, rest) ← readValue? fuel bs
    match skipSpace rest with
    | 0x2C :: rest =>
      let (items, rest) ← readItems? fuel (skipSpace rest)
      return (item :: items, rest)
    | 0x5D :: rest => return ([item], rest)
    | _ => none

/-- One or more members between commas up to a closing brace. -/
def readMembers? : (fuel : Nat) → Bytes → Option (List (List Piece × Tree) × Bytes)
  | 0, _ => none
  | fuel + 1, bs =>
    match bs with
    | 0x22 :: rest => do
      let (name, rest) ← readPieces? rest
      match skipSpace rest with
      | 0x3A :: rest =>
        let (value, rest) ← readValue? fuel (skipSpace rest)
        match skipSpace rest with
        | 0x2C :: rest =>
          let (members, rest) ← readMembers? fuel (skipSpace rest)
          return ((name, value) :: members, rest)
        | 0x7D :: rest => return ([(name, value)], rest)
        | _ => none
      | _ => none
    | _ => none

end

/-- The tree of a whole document.  Every two calls use up a byte, which bounds them. -/
def Tree.read? (document : Bytes) : Option Tree := do
  let (tree, rest) ← readValue? (2 * document.length + 2) (skipSpace document)
  if skipSpace rest = [] then some tree else none

/-! ### Strings -/

/-- The UTF-8 form of a code point that is no surrogate. -/
def utf8 (codePoint : Nat) : Bytes := String.utf8EncodeChar (Char.ofNat codePoint)

/-- The bytes that pieces stand for; a surrogate counts only as half of a pair. -/
def Piece.bytes? : List Piece → Option Bytes
  | [] => some []
  | .byte b :: rest => (Piece.bytes? rest).map (b :: ·)
  | .unit u :: rest =>
    if 0xD800 ≤ u ∧ u < 0xDC00 then
      match rest with
      | .unit l :: rest =>
        if 0xDC00 ≤ l ∧ l < 0xE000 then
          (Piece.bytes? rest).map
            (utf8 (0x10000 + (u.toNat - 0xD800) * 1024 + (l.toNat - 0xDC00)) ++ ·)
        else none
      | _ => none
    else if 0xDC00 ≤ u ∧ u < 0xE000 then none
    else (Piece.bytes? rest).map (utf8 u.toNat ++ ·)

/-- The text that the pieces of a string stand for, if they are well-formed. -/
def Piece.text? (body : List Piece) : Option String := (Piece.bytes? body).bind Bytes.text?

end ProfileGuard.Json
