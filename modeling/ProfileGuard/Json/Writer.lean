import ProfileGuard.Text.Decimal
import ProfileGuard.Text.Hex

/-!
# Writing JSON

The compact form: no blanks, members in the order given, and in strings only what must be escaped is
escaped, by the shortest form there is.

* **`Json.Write.quote`** — a text as a JSON string.
* **`Json.Write.object`** / **`Json.Write.array`** — members and items joined by commas.
-/

namespace ProfileGuard.Json.Write

/-- A character inside a string. -/
def escape (c : Char) : List Char :=
  if c = '"' then ['\\', '"']
  else if c = '\\' then ['\\', '\\']
  else if 0x20 ≤ c.toNat then [c]
  else if c = '\n' then ['\\', 'n']
  else if c = '\t' then ['\\', 't']
  else if c = '\r' then ['\\', 'r']
  else if c.toNat = 8 then ['\\', 'b']
  else if c.toNat = 12 then ['\\', 'f']
  else '\\' :: 'u' :: Text.Hex.fixed 4 c.toNat

/-- A text as a JSON string. -/
def quote (text : String) : List Char := '"' :: (text.toList.flatMap escape ++ ['"'])

/-- A natural number. -/
def natural (n : Nat) : List Char := Text.Decimal.chars n

/-- A switch. -/
def bool (b : Bool) : List Char := if b then "true".toList else "false".toList

/-- Pieces with a comma between any two. -/
def commas : List (List Char) → List Char
  | [] => []
  | [piece] => piece
  | piece :: pieces => piece ++ ',' :: commas pieces

/-- An array of written items. -/
def array (items : List (List Char)) : List Char := '[' :: (commas items ++ [']'])

/-- A member whose value is written already. -/
def member (name : String) (value : List Char) : List Char := quote name ++ ':' :: value

/-- An object of written members. -/
def object (members : List (List Char)) : List Char := '\x7b' :: (commas members ++ ['\x7d'])

end ProfileGuard.Json.Write
