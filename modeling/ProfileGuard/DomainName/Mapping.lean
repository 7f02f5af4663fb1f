import ProfileGuard.DomainName.MappingTable
import ProfileGuard.Text.CodeSet

/-!
# The mapping of domain names

Domain names that look alike are written with the same characters before anything else is done with
them: capitals become small letters, wide forms narrow ones, and so on.

* **`DomainName.map?`** — what becomes of a character.
* **`DomainName.isValid`** — whether a character stays as it is.
-/

namespace ProfileGuard.DomainName

/-- The rule that characters are replaced. -/
structure Replacement where
  range : Text.CodeRange
  /-- One character in so many of the range is meant. -/
  step : Nat
  /-- What the first one becomes; a single character goes on as the range does. -/
  target : List Nat

namespace Replacement

/-- Whether the rule is about a code point. -/
def concerns (r : Replacement) (n : Nat) : Bool :=
  r.range.contains n && (n - r.range.first) % r.step == 0

/-- What stands for a code point that the rule is about. -/
def apply (r : Replacement) (n : Nat) : List Char :=
  match r.target with
  | [t] => [Char.ofNat (t + (n - r.range.first))]
  | target => target.map Char.ofNat

/-- The rule that an entry of the table gives. -/
def read? (cs : List Char) : Option Replacement := do
  let source := cs.takeWhile (· != '>')
  let range ← Text.CodeRange.read? (source.takeWhile (· != '/'))
  let target ← (Text.splitChars '.' (cs.dropWhile (· != '>')).tail).mapM Text.Hex.value?
  return { range, target, step := if source.contains '/' then 2 else 1 }

end Replacement

/-- The characters that may not occur. -/
def disallowed : Text.CodeSet := Text.CodeSet.ofTable disallowedTable

/-- The characters that are left out. -/
def ignored : Text.CodeSet := Text.CodeSet.ofTable ignoredTable

/-- The characters that other characters stand for. -/
def replacements : List Replacement := (Text.entries replacedTable).filterMap Replacement.read?

/-- What becomes of a character; none of those that may not occur. -/
def map? (c : Char) : Option (List Char) :=
  if Text.isAscii c then some [c.toLower]
  else if ignored.contains c then some []
  else if disallowed.contains c then none
  else
    match replacements.find? (·.concerns c.toNat) with
    | some r => some (r.apply c.toNat)
    | none => some [c]

/-- Whether a character stays as it is. -/
def isValid (c : Char) : Bool := map? c == some [c]

end ProfileGuard.DomainName
