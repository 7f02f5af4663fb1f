import ProfileGuard.Text.CombiningClass
import ProfileGuard.Text.Composition

/-!
# Composed text

One word can be written in several ways: with composed characters or with their parts, and with the
marks on a letter in any order.  The composed form takes all characters apart, brings the marks into
the order of their classes, and composes again what can be.  It is the Normalization Form C of texts
whose characters are all allowed in a domain name.

* **`Text.composed`** — the composed form.
-/

namespace ProfileGuard.Text

/-- The parts of a character, taken apart at most `depth` times. -/
def parts : (depth : Nat) → Char → List Char
  | 0, c => [c]
  | depth + 1, c =>
    match halves? c with
    | some (a, b) => parts depth a ++ [b]
    | none => [c]

/-- How often a character can be taken apart. -/
def mostParts : Nat := 3

/-- Puts a character in front of a text, after the marks there that are of a lower class. -/
def place (c : Char) : List Char → List Char
  | [] => [c]
  | x :: xs =>
    if combiningClass x ≠ 0 ∧ combiningClass x < combiningClass c then x :: place c xs
    else c :: x :: xs

/-- Composes a character with what follows it; `marks` are those between that stay, the last one
first.  A mark of the class of a mark before it, or of a lower one, cannot reach the character. -/
def recompose (c : Char) (marks : List Char) : List Char → List Char
  | [] => c :: marks.reverse
  | x :: xs =>
    let reaches := marks.all fun m => combiningClass m < combiningClass x
    match if reaches then compose? c x else none with
    | some whole => recompose whole marks xs
    | none =>
      if combiningClass x = 0 then c :: marks.reverse ++ recompose x [] xs
      else recompose c (x :: marks) xs

/-- The composed form of a text. -/
def composed (cs : List Char) : List Char :=
  if cs.all isAscii then cs
  else
    match (cs.flatMap (parts mostParts)).foldr place [] with
    | [] => []
    | c :: rest => recompose c [] rest

end ProfileGuard.Text
