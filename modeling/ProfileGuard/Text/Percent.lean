import ProfileGuard.Text.Hex

/-!
# Percent encoding

A byte may be written as a percent sign and two hexadecimal digits.  Characters that have a meaning of
their own where a text is put are written so, byte by byte in UTF-8.

* **`Text.Percent.encode`** — a text with all characters encoded but those of a set.
* **`Text.Percent.decode`** — the bytes that a text stands for.
-/

namespace ProfileGuard.Text.Percent

/-- A byte as `%` and two capital digits. -/
def byte (b : UInt8) : List Char := '%' :: (Hex.pair b).map Char.toUpper

/-- Characters with those that do not stand for themselves encoded. -/
def encode (keep : Char → Bool) (cs : List Char) : List Char :=
  cs.flatMap fun c => if keep c then [c] else (String.utf8EncodeChar c).flatMap byte

/-- The bytes that characters stand for; a percent sign without two digits stands for itself. -/
def decode : List Char → Bytes
  | '%' :: h :: l :: rest =>
    match Hex.digitValue? h, Hex.digitValue? l with
    | some high, some low => UInt8.ofNat (high * 16 + low) :: decode rest
    | _, _ => 0x25 :: decode (h :: l :: rest)
  | c :: rest => String.utf8EncodeChar c ++ decode rest
  | [] => []

end ProfileGuard.Text.Percent
