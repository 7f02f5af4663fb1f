import ProfileGuard.Text.Mark

/-!
# The direction of domain names

Labels that are written from right to left stand in one domain name with labels that are written
from left to right.  So that the order on the screen tells the order in the name, every label of
such a name keeps to one direction.

* **`DomainName.Direction`** / **`DomainName.direction`** — what a character does to the direction.
* **`DomainName.isOriented`** — whether a label keeps to one direction.
-/

namespace ProfileGuard.DomainName

/-- What a character does to the direction of writing. -/
inductive Direction where
  /-- It is written from left to right. -/
  | leftToRight
  /-- It is written from right to left. -/
  | rightToLeft
  /-- It is a European digit. -/
  | number
  /-- It is an Arabic digit. -/
  | arabicNumber
  /-- It follows the character before it. -/
  | mark
  /-- It has no direction of its own. -/
  | neutral
  deriving DecidableEq

/-- Characters of domain names that are written from right to left. -/
def rightToLefts : Text.CodeSet := Text.CodeSet.ofTable [
  "5BE 5C0 5C3 5C6 5D0-5F4 608 60B 60D 61B-64A 66D-66F 671-6D5 6E5-6E6 6EE-6EF 6FA-710 712-72F",
  "74D-7A5 7B1-7EA 7F4-7F5 7FA 7FE-815 81A 824 828 830-858 85E-88F 8A0-8C9 FBB2-FBC2 FE73",
  "10800-1091B 10920-10A00 10A10-10A35 10A40-10AE4 10AEB-10B35 10B40-10D23 10D4A-10D4F",
  "10D6F-10D8F 10E80-10EA9 10EAD-10ECF 10ED9-10EF9 10F00-10F45 10F51-10F81 10F86-10FF6",
  "1E800-1E8CF 1E922-1E943 1E94B-1ED3D"]

/-- European digits. -/
def numbers : Text.CodeSet := Text.CodeSet.ofTable [
  "30-39 6F0-6F9 102E1-102FB"]

/-- Arabic digits. -/
def arabicNumbers : Text.CodeSet := Text.CodeSet.ofTable [
  "660-669 66B-66C 10D30-10D49 10E60-10E7E"]

/-- Characters of domain names without a direction of their own. -/
def neutrals : Text.CodeSet := Text.CodeSet.ofTable [
  "21-2E 3B-60 7B-D7 F7 2B9-2BA 2C2-2CF 2D2-2ED 2EF-2FF 375 3F6 58A 58D-58F 606-607 609-60A 60C",
  "60E-60F 66A 6DE 6E9 7F6-7F9 9F2-9F3 9FB AF1 BF3-BFA C78-C7E E3F F3A-F3D 1390-1399 1400",
  "169B-169C 17DB 17F0-180A 1940-1945 19DE-19FF 200C-205E 20A0-20CF 2104-214D 218A-2335",
  "237B-2394 2396-26AB 26AD-27FF 2900-2BFF 2CE5-2CEA 2CF9-2CFF 2E00-3004 3008-3020 3030 3037",
  "303D-303F 30A0 30FB 31C0-31EE 4DC0-4DFF A490-A4C6 A60D-A60F A673 A67E-A67F A700-A721 A788",
  "A828-A82B A838-A839 A874-A877 AB6A-AB6B FBC3-FDFF FE45-FE46 10101 10140-1018C 10190-101A0",
  "1091F 10B39-10B3F 10D6E 10ED0-10ED8 11052-11065 11660-1166C 11FD5-11FF1 16FE2 1CC00-1CEFF",
  "1D1E9-1D1EA 1D200-1D241 1D245 1D300-1D356 1E2FF 1EEF0-1F12F 1F16D-1F16F 1F1AD 1F260-1FBFF"]

/-- Marks without room of their own that are written from left to right all the same. -/
def leftToRightMarks : Text.CodeSet :=
  Text.CodeSet.ofTable ["CBF CC6 1B3A 1B3C 1B42 11A07-11A08 11C3F"]

/-- What a character that may stand in a domain name does to the direction. -/
def direction (c : Char) : Direction :=
  if rightToLefts.contains c then .rightToLeft
  else if numbers.contains c then .number
  else if arabicNumbers.contains c then .arabicNumber
  else if neutrals.contains c then .neutral
  else if Text.isNonspacing c && !leftToRightMarks.contains c then .mark
  else .leftToRight

/-- Whether a label has a character that goes from right to left. -/
def hasRightToLeft (label : List Char) : Bool :=
  !label.all Text.isAscii && label.any fun c => direction c ∈ [.rightToLeft, .arabicNumber]

/-- Whether directions keep to the one that the first of them sets: what is written otherwise does
not occur, and the last one, marks left out, is a letter or a digit.  From right to left only one
kind of digit occurs. -/
def keepsTo (first : Direction) (rest : List Direction) : Bool :=
  let rest := (rest.reverse.dropWhile (· == .mark)).reverse
  match first with
  | .leftToRight =>
    rest.all (· ∈ [.leftToRight, .number, .neutral, .mark]) &&
      (rest.getLast?.getD first) ∈ [.leftToRight, .number]
  | .rightToLeft =>
    rest.all (· ≠ .leftToRight) &&
      (rest.getLast?.getD first) ∈ [.rightToLeft, .number, .arabicNumber] &&
      !(rest.contains .number && rest.contains .arabicNumber)
  | _ => false

/-- Whether a label keeps to one direction. -/
def isOriented (label : List Char) : Bool :=
  match label.map direction with
  | [] => true
  | first :: rest => keepsTo first rest

end ProfileGuard.DomainName
