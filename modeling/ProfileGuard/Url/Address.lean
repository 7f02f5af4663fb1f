import ProfileGuard.Text.Blank
import ProfileGuard.Text.Hex

/-!
# Internet addresses

A host may be given by its address: four bytes with dots between them, or eight pieces of 16 bits with
colons between them.

* **`Url.isIpv4`** — whether a host is an address of four bytes.
* **`Url.endsInNumber`** — whether a host must be such an address.
* **`Url.isIpv6`** — whether a text is an address of eight pieces.
-/

namespace ProfileGuard.Url

/-- The parts of a dotted text; one empty part at the end is left out. -/
def dottedParts (cs : List Char) : List (List Char) :=
  let parts := Text.splitChars '.' cs
  if parts.getLast? = some [] then parts.dropLast else parts

/-- A digit below `base`. -/
def isDigitIn (base : Nat) (c : Char) : Bool :=
  match Text.Hex.digitValue? c with
  | some d => d < base
  | none => false

/-- Digits in `base`; nothing at all is zero. -/
def digitsIn? (base : Nat) (cs : List Char) : Option Nat :=
  if cs.all (isDigitIn base) then
    some (cs.foldl (fun n c => n * base + (Text.Hex.digitValue? c).getD 0) 0)
  else none

/-- A number of an IPv4 address: hexadecimal after `0x`, octal after `0`, otherwise decimal. -/
def addressNumber? : List Char → Option Nat
  | [] => none
  | '0' :: 'x' :: rest => digitsIn? 16 rest
  | '0' :: 'X' :: rest => digitsIn? 16 rest
  | '0' :: c :: rest => digitsIn? 8 (c :: rest)
  | cs => digitsIn? 10 cs

/-- Whether the last part of a host is a number, so that the host must be an IPv4 address. -/
def endsInNumber (host : List Char) : Bool :=
  match (dottedParts host).getLast? with
  | some last => (last ≠ [] && last.all Char.isDigit) || (addressNumber? last).isSome
  | none => false

/-- Whether a host is an IPv4 address: up to four numbers, the last filling the bytes left. -/
def isIpv4 (host : List Char) : Bool :=
  match (dottedParts host).mapM addressNumber? with
  | some numbers =>
    numbers.length ≤ 4 && numbers.dropLast.all (· ≤ 255) &&
      (numbers.getLast?.getD 0) < 1 <<< (8 * (5 - numbers.length))
  | none => false

/-- Whether a text is an IPv4 address of four decimal numbers without leading zeros. -/
def isDottedQuad (cs : List Char) : Bool :=
  let parts := Text.splitChars '.' cs
  parts.length = 4 && parts.all fun part =>
    part ≠ [] && part.all Char.isDigit && (part.length = 1 || part.head? ≠ some '0') &&
      (digitsIn? 10 part).getD 256 ≤ 255

/-- How many 16-bit pieces of an IPv6 address stand between its colons; none if one is malformed.  The
last piece may be an IPv4 address, which counts for two. -/
def pieceCount? : List (List Char) → Option Nat
  | [] => some 0
  | [last] =>
    if isDottedQuad last then some 2
    else if 1 ≤ last.length ∧ last.length ≤ 4 ∧ last.all (isDigitIn 16) then some 1
    else none
  | piece :: pieces =>
    if 1 ≤ piece.length ∧ piece.length ≤ 4 ∧ piece.all (isDigitIn 16) then
      (pieceCount? pieces).map (· + 1)
    else none

/-- What stands before and after the first double colon. -/
def splitDoubleColon? : List Char → Option (List Char × List Char)
  | ':' :: ':' :: rest => some ([], rest)
  | c :: rest => (splitDoubleColon? rest).map fun (before, after) => (c :: before, after)
  | [] => none

/-- The pieces between colons; none in an empty text. -/
def colonParts (cs : List Char) : List (List Char) :=
  if cs = [] then [] else Text.splitChars ':' cs

/-- Whether a text is an IPv6 address: eight pieces, or fewer with one double colon for the rest. -/
def isIpv6 (cs : List Char) : Bool :=
  match splitDoubleColon? cs with
  | none => pieceCount? (colonParts cs) = some 8
  | some (before, after) =>
    match pieceCount? (colonParts before), pieceCount? (colonParts after) with
    | some m, some n => m + n < 8 && !before.any (· == '.')
    | _, _ => false

end ProfileGuard.Url
