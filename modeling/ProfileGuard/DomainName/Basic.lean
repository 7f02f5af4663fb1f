import ProfileGuard.DomainName.Direction
import ProfileGuard.DomainName.Joiner
import ProfileGuard.DomainName.Mapping
import ProfileGuard.DomainName.Punycode
import ProfileGuard.Text.Composed

/-!
# Domain names

A domain name is labels with dots between them.  Names that look alike are the same name: the
characters are mapped and composed before the name is cut into labels, and labels in Punycode are
read.  A name is refused if a character in it may not occur, if Punycode in it stands for nothing or
for characters that mapping or composing would change, if a label begins with a mark, if a joiner in
it does nothing, or if the order on the screen would not tell the order in the name.

* **`DomainName.labels?`** — the labels of a name.
* **`DomainName.read?`** — the name with its labels as they are read.
-/

namespace ProfileGuard.DomainName

/-- An ASCII character that no name may hold. -/
def isForbidden (c : Char) : Bool :=
  c.toNat ≤ 0x20 || c.toNat = 0x7F ||
    c ∈ ['#', '%', '/', ':', '<', '>', '?', '@', '[', '\\', ']', '^', '|']

/-- Whether a text is as mapping and composing would leave it. -/
def isNormal (label : List Char) : Bool :=
  label.all (fun c => isValid c && !isForbidden c) && Text.composed label = label

/-- What a label in front of Punycode begins with. -/
def punycodeMark : List Char := ['x', 'n', '-', '-']

/-- A label as it is read: in plain characters, or in Punycode after `xn--`. -/
def readLabel? (label : List Char) : Option (List Char) :=
  if label.take 4 = punycodeMark then
    let digits := label.drop 4
    if label.all Text.isAscii ∧ digits ≠ [] ∧ digits.getLast? ≠ some '-' ∧ digits.length ≤ 2000 then
      (Punycode.decode? digits).filter isNormal
    else none
  else some label

/-- Whether a label is of its own a label of a name. -/
def isLabel (label : List Char) : Bool :=
  label.all Text.isAscii ||
    (label.length ≤ 1000 && !label.head?.any Text.isMark && hasFitJoiners label)

/-- The labels of a name. -/
def labels? (name : List Char) : Option (List (List Char)) := do
  let mapped ← name.mapM map?
  let text := Text.composed mapped.flatten
  if text.any isForbidden then none
  let labels ← (Text.splitChars '.' text).mapM readLabel?
  if !labels.all isLabel then none
  if labels.any hasRightToLeft && !labels.all isOriented then none
  return labels

/-- The name with its labels as they are read. -/
def read? (name : List Char) : Option (List Char) :=
  (labels? name).map fun labels => List.intercalate ['.'] labels

end ProfileGuard.DomainName
