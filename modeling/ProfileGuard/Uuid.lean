import ProfileGuard.Text.Hex

/-!
# Universally unique identifiers

Identifiers of 128 bits.  They are written as 32 lower-case digits in groups of 8, 4, 4, 4 and 12, and
read from that form, from the bare digits, from braces around the groups, or after `urn:uuid:` in
letters of either case.

* **`Uuid`** — an identifier.
* **`Uuid.render`** / **`Uuid.read?`** — the grouped form, and the reading of any form.
* **`Uuid.random`** — a version 4 identifier made from 128 random bits.
-/

namespace ProfileGuard

/-- An identifier of 128 bits. -/
structure Uuid where
  bits : BitVec 128
  deriving DecidableEq

namespace Uuid

/-- Random bits with the version and the variant of a random identifier put in. -/
def random (bits : BitVec 128) : Uuid :=
  ⟨(bits &&& ~~~(0xf000c000000000000000#128)) ||| 0x40008000000000000000#128⟩

/-- The version number: the first digit of the third group. -/
def version (u : Uuid) : Nat := (u.bits >>> 76).toNat % 16

/-- Whether the variant is the one that RFC 4122 lays down. -/
def isStandardVariant (u : Uuid) : Bool := (u.bits >>> 62).toNat % 4 == 2

/-- The 32 lower-case digits. -/
def digits (u : Uuid) : List Char := Text.Hex.fixed 32 u.bits.toNat

/-- Digits in groups of 8, 4, 4, 4 and the rest. -/
def group (ds : List Char) : List Char :=
  ds.take 8 ++ '-' :: (ds.drop 8).take 4 ++ '-' :: (ds.drop 12).take 4 ++
    '-' :: (ds.drop 16).take 4 ++ '-' :: ds.drop 20

/-- The lower-case digits in groups. -/
def render (u : Uuid) : List Char := group u.digits

/-- The identifier written by exactly 32 digits. -/
def ofDigits? (ds : List Char) : Option Uuid :=
  if ds.length = 32 then (Text.Hex.value? ds).map fun n => ⟨BitVec.ofNat 128 n⟩ else none

/-- The identifier written by 36 characters, digits in groups. -/
def ofGroups? (cs : List Char) : Option Uuid :=
  let ds := cs.take 8 ++ (cs.drop 9).take 4 ++ (cs.drop 14).take 4 ++ (cs.drop 19).take 4 ++
    cs.drop 24
  if cs.length = 36 ∧ cs = group ds then ofDigits? ds else none

/-- What stands in front of the groups in a uniform resource name, in small letters. -/
def nameSpace : List Char := ['u', 'r', 'n', ':', 'u', 'u', 'i', 'd', ':']

/-- The identifier written by the characters in any of the forms. -/
def readChars? (cs : List Char) : Option Uuid :=
  match cs with
  | '\x7b' :: rest =>
    if rest.getLast? = some '\x7d' then ofGroups? rest.dropLast else none
  | cs =>
    if (cs.take 9).map Char.toLower = nameSpace then ofGroups? (cs.drop 9)
    else if cs.length = 32 then ofDigits? cs
    else ofGroups? cs

/-- The identifier written by a text. -/
def read? (text : String) : Option Uuid := readChars? text.toList

/-- The grouped form as a text. -/
def text (u : Uuid) : String := String.ofList u.render

end Uuid

end ProfileGuard
