/-!
# Blank characters and trimming

A character is blank when Unicode gives it the property `White_Space`.  Keys, configuration values
and required fields are looked at after their outer blanks are taken away.

* **`Text.isBlank`** — the property, as a table of ranges.
* **`Text.trim`** — a text without the blanks at its two ends.
* **`Text.isBlankText`** — nothing but blanks is left.
-/

namespace ProfileGuard.Text

/-- The Unicode property `White_Space`. -/
def isBlank (c : Char) : Bool :=
  let n := c.toNat
  (0x09 ≤ n && n ≤ 0x0D) || n == 0x20 || n == 0x85 || n == 0xA0 || n == 0x1680 ||
    (0x2000 ≤ n && n ≤ 0x200A) || n == 0x2028 || n == 0x2029 || n == 0x202F || n == 0x205F ||
    n == 0x3000

/-- The characters after the leading blanks. -/
def dropBlanks (cs : List Char) : List Char := cs.dropWhile isBlank

/-- The characters without the blanks at the two ends. -/
def trimChars (cs : List Char) : List Char :=
  (dropBlanks (dropBlanks cs).reverse).reverse

/-- A text without the blanks at its two ends. -/
def trim (text : String) : String := String.ofList (trimChars text.toList)

/-- A text with nothing but blanks in it, such as the empty text. -/
def isBlankText (text : String) : Bool := text.toList.all isBlank

/-- A text with its ASCII capitals made small. -/
def lowerAscii (text : String) : String := String.ofList (text.toList.map Char.toLower)

/-- The parts of `cs` between the occurrences of `sep`; always at least one part. -/
def splitChars (sep : Char) : List Char → List (List Char)
  | [] => [[]]
  | c :: cs =>
    if c = sep then [] :: splitChars sep cs
    else match splitChars sep cs with
      | [] => [[c]]
      | part :: parts => (c :: part) :: parts

end ProfileGuard.Text
