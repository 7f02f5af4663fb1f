import ProfileGuard.Bytes

/-!
# Hexadecimal text

Digests are shown as lower-case hexadecimal, two digits for each byte, and identifiers as a fixed
number of digits.

* **`Text.Hex.encode`** — the lower-case digits of a byte sequence.
* **`Text.Hex.decode?`** — the bytes of a text of digit pairs, in either case.
* **`Text.Hex.fixed`** / **`Text.Hex.value?`** — a number in a fixed number of digits, and back.
-/

namespace ProfileGuard.Text.Hex

/-- The lower-case digit of a number below 16. -/
def digit (n : Nat) : Char := Nat.digitChar n

/-- The value of a hexadecimal digit in either case. -/
def digitValue? (c : Char) : Option Nat :=
  if '0' ≤ c ∧ c ≤ '9' then some (c.toNat - 48)
  else if 'a' ≤ c ∧ c ≤ 'f' then some (c.toNat - 87)
  else if 'A' ≤ c ∧ c ≤ 'F' then some (c.toNat - 55)
  else none

/-- The two digits of a byte. -/
def pair (b : UInt8) : List Char := [digit (b.toNat / 16), digit (b.toNat % 16)]

/-- The lower-case hexadecimal form of a byte sequence. -/
def encode (bytes : Bytes) : String := String.ofList (bytes.flatMap pair)

/-- The bytes written by pairs of digits. -/
def decodeChars? : List Char → Option Bytes
  | [] => some []
  | [_] => none
  | h :: l :: rest => do
    let high ← digitValue? h
    let low ← digitValue? l
    let bytes ← decodeChars? rest
    return UInt8.ofNat (high * 16 + low) :: bytes

/-- The bytes of a hexadecimal text; `none` for an odd length or any other character. -/
def decode? (text : String) : Option Bytes := decodeChars? text.toList

/-- The last `width` hexadecimal digits of `n`. -/
def fixed : (width n : Nat) → List Char
  | 0, _ => []
  | width + 1, n => fixed width (n / 16) ++ [digit (n % 16)]

/-- The number written by hexadecimal digits, each appended on the right of `acc`. -/
def valueFrom? (acc : Nat) : List Char → Option Nat
  | [] => some acc
  | c :: cs => (digitValue? c).bind fun d => valueFrom? (acc * 16 + d) cs

/-- The number written by hexadecimal digits. -/
def value? (cs : List Char) : Option Nat := valueFrom? 0 cs

theorem digitValue?_digit {n : Nat} (h : n < 16) : digitValue? (digit n) = some n := by
  have : ∀ m : Fin 16, digitValue? (digit m.val) = some m.val := by decide
  exact this ⟨n, h⟩

theorem valueFrom?_append (acc : Nat) (xs ys : List Char) :
    valueFrom? acc (xs ++ ys) = (valueFrom? acc xs).bind (valueFrom? · ys) := by
  induction xs generalizing acc with
  | nil => rfl
  | cons c cs ih => cases h : digitValue? c <;> simp [valueFrom?, h, ih]

/-- Fixed-width digits read back as the number modulo the width's range. -/
theorem value?_fixed (width n : Nat) : value? (fixed width n) = some (n % Nat.pow 16 width) := by
  induction width generalizing n with
  | zero => simp [fixed, value?, valueFrom?, Nat.mod_one]
  | succ width ih =>
    simp only [value?] at ih ⊢
    rw [fixed, valueFrom?_append, ih]
    simp only [Option.bind_some, valueFrom?, digitValue?_digit (Nat.mod_lt n (by decide : 0 < 16))]
    congr 1
    have step : Nat.pow 16 (width + 1) = 16 * Nat.pow 16 width := Nat.mul_comm _ _
    rw [step, Nat.mod_mul]
    omega

end ProfileGuard.Text.Hex
