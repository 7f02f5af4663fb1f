import ProfileGuard.Text.Blank
import ProfileGuard.Text.Percent
import ProfileGuard.Url.Host

/-!
# Paths of URLs

A path is segments with slashes in front of them.  A dot as a segment means the place where it stands,
and two dots the place above; both may be percent-encoded.  The letter of a drive is never left.

* **`Url.resolve`** — segments without dots.
* **`Url.readPath`** — the path that a text writes.
-/

namespace ProfileGuard.Url

/-- Whether a character is neither a control character nor outside ASCII. -/
def isPlain (c : Char) : Bool := 0x20 ≤ c.toNat && c.toNat < 0x7F

/-- Whether a character stands for itself in a path. -/
def isPathChar (c : Char) : Bool :=
  isPlain c && !(c ∈ [' ', '"', '#', '<', '>', '?', '\x60', '\x7b', '\x7d'])

/-- Whether a segment means the present place. -/
def isDot (segment : List Char) : Bool :=
  segment.map Char.toLower ∈ [['.'], ['%', '2', 'e']]

/-- Whether a segment means one place up. -/
def isDoubleDot (segment : List Char) : Bool :=
  segment.map Char.toLower ∈
    [['.', '.'], ['.', '%', '2', 'e'], ['%', '2', 'e', '.'], ['%', '2', 'e', '%', '2', 'e']]

/-- The place above one that is given by its segments, the last one first. -/
def above : List (List Char) → List (List Char)
  | [] => []
  | last :: segments => if isDriveLetter last then last :: segments else segments

/-- Segments with the dots resolved; `done` holds the segments before, the last one first.  Dots at the
end leave an empty segment. -/
def resolve (done : List (List Char)) : List (List Char) → List (List Char)
  | [] => done.reverse
  | [last] =>
    if isDoubleDot last then ([] :: above done).reverse
    else if isDot last then ([] :: done).reverse
    else (last :: done).reverse
  | segment :: segments =>
    if isDoubleDot segment then resolve (above done) segments
    else if isDot segment then resolve done segments
    else resolve (segment :: done) segments

/-- The path of a scheme that names hosts, from the characters after the host. -/
def readPath (cs : List Char) : List Char :=
  let slashed := cs.map fun c => if c = '\\' then '/' else c
  let segments := Text.splitChars '/' (if slashed.head? = some '/' then slashed.tail else slashed)
  (resolve [] segments).flatMap fun segment => '/' :: Text.Percent.encode isPathChar segment

end ProfileGuard.Url
