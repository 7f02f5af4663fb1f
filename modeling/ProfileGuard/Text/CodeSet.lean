import ProfileGuard.Text.Blank
import ProfileGuard.Text.Hex

/-!
# Sets of characters

A property of characters is given as a table of the code points that have it: rows of ranges in
hexadecimal digits.  The row `41-5A 5F` is the capital letters of ASCII and the low line.

* **`Text.CodeSet`** — a set of characters as ranges of code points.
* **`Text.CodeSet.ofTable`** — the set that a table gives.
* **`Text.CodeSet.contains`** — whether a character is in the set.
-/

namespace ProfileGuard.Text

/-- Whether a character belongs to ASCII. -/
def isAscii (c : Char) : Bool := c.toNat < 0x80

/-- The code points from `first` to `last`. -/
structure CodeRange where
  first : Nat
  last : Nat

namespace CodeRange

/-- Whether a code point lies in the range. -/
def contains (r : CodeRange) (n : Nat) : Bool := r.first ≤ n && n ≤ r.last

/-- The range that begins at the code point `n` and ends at the one that `cs` writes after a hyphen;
only `n` if nothing is written. -/
def upTo? (n : Nat) : List Char → Option CodeRange
  | [] => some ⟨n, n⟩
  | _ :: cs => (Hex.value? cs).map fun last => ⟨n, last⟩

/-- The range that an entry of a table gives. -/
def read? (cs : List Char) : Option CodeRange :=
  (Hex.value? (cs.takeWhile (· != '-'))).bind fun first => upTo? first (cs.dropWhile (· != '-'))

end CodeRange

/-- The entries in the rows of a table, with one space between two of them. -/
def entries (table : List String) : List (List Char) :=
  table.flatMap fun row => splitChars ' ' row.toList

/-- A set of characters as ranges of code points. -/
abbrev CodeSet := List CodeRange

namespace CodeSet

/-- The set that a table gives. -/
def ofTable (table : List String) : CodeSet := (entries table).filterMap CodeRange.read?

/-- Whether a character is in the set. -/
def contains (set : CodeSet) (c : Char) : Bool := set.any fun r => r.contains c.toNat

end CodeSet

end ProfileGuard.Text
