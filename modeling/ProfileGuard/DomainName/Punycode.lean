import ProfileGuard.Text.CodeSet

/-!
# Punycode

A label with characters outside ASCII is written with letters, digits and hyphens: first its ASCII
characters and a hyphen, then one number for each other character, which says how far the character
lies behind the one before it in code point and place.  A number is written digit by digit, the
lowest first, in a base that varies; a digit below the threshold of its place ends the number.

* **`Punycode.decode?`** — the label that Punycode stands for.
-/

namespace ProfileGuard.DomainName.Punycode

/-- The value of a digit: letters from 0, then figures from 26. -/
def digitValue? (c : Char) : Option Nat :=
  if c.isLower then some (c.toNat - 0x61)
  else if c.isDigit then some (c.toNat - 0x30 + 26)
  else none

/-- The threshold of the `place`-th digit. -/
def threshold (bias place : Nat) : Nat := max 1 (min 26 (36 * place - bias))

/-- The number that digits write, from the one at `place` on, and what follows.  `weight` is what
the digit counts for and `sum` what the digits before have given.  Numbers have at most 32 bits. -/
def number? (bias : Nat) : (place weight sum : Nat) → List Char → Option (Nat × List Char)
  | _, _, _, [] => none
  | place, weight, sum, c :: rest => do
    let digit ← digitValue? c
    let sum := sum + digit * weight
    let bound := threshold bias place
    if UInt32.size ≤ sum then none
    if digit < bound then return (sum, rest)
    let weight := weight * (36 - bound)
    if UInt32.size ≤ weight then none
    number? bias (place + 1) weight sum rest

/-- Numbers are read from the front. -/
theorem length_of_number? {bias place weight sum n : Nat} {cs rest : List Char}
    (h : number? bias place weight sum cs = some (n, rest)) : rest.length < cs.length := by
  induction cs generalizing place weight sum with
  | nil => simp [number?] at h
  | cons c cs ih =>
    rw [number?] at h
    cases hd : digitValue? c with
    | none => simp [hd] at h
    | some d =>
      simp only [hd, Option.bind_eq_bind, Option.bind_some] at h
      split at h
      · simp at h
      split at h
      · simp only [Option.pure_def, Option.some.injEq, Prod.mk.injEq] at h
        simp [← h.2]
      split at h
      · simp at h
      · have := ih h
        simp only [List.length_cons]
        omega

/-- Divides a distance by 35 until it is at most 455; how often, and what is left. -/
def scale (distance : Nat) : Nat × Nat :=
  if 455 < distance then
    let (count, left) := scale (distance / 35)
    (count + 1, left)
  else (0, distance)
termination_by distance
decreasing_by omega

/-- The bias for the next number, after a distance in a label that now has `size` characters. -/
def adapt (isFirst : Bool) (distance size : Nat) : Nat :=
  let damped := if isFirst then distance / 700 else distance / 2
  let (count, left) := scale (damped + damped / size)
  36 * count + 36 * left / (left + 38)

/-- Inserts the characters that the numbers stand for.  `code` is the code point of the character
inserted last, and `position` the place after it. -/
def insertAll (bias code position : Nat) (label cs : List Char) : Option (List Char) :=
  if cs = [] then some label
  else
    match _h : number? bias 1 1 position cs with
    | none => none
    | some (n, rest) =>
      let size := label.length + 1
      let code := code + n / size
      if code.isValidChar then
        insertAll (adapt (position = 0) (n - position) size) code (n % size + 1)
          (label.insertIdx (n % size) (Char.ofNat code)) rest
      else none
termination_by cs.length
decreasing_by exact length_of_number? (by assumption)

/-- The label that Punycode stands for.  Its ASCII characters end at the last hyphen; a hyphen in
front of everything ends nothing. -/
def decode? (cs : List Char) : Option (List Char) :=
  let numbers := (cs.reverse.takeWhile (· != '-')).reverse
  let ascii := cs.take (cs.length - numbers.length - 1)
  insertAll 72 0x80 0 ascii (if ascii = [] then cs else numbers)

end ProfileGuard.DomainName.Punycode
