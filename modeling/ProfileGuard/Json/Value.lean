import ProfileGuard.Decimal.Shortest
import ProfileGuard.Json.Tree
import ProfileGuard.Json.Writer

/-!
# JSON values

A document whose every part is wanted.  Integers that fit 64 bits stay integers and all other numbers
become doubles; of members with one name the last counts, and members are kept in the order of
their names.

* **`Json.Value`** — a value.
* **`Json.Value.read?`** — the value of a document, nested at most 127 deep.
* **`Json.Value.render`** — the compact form of a value.
-/

namespace ProfileGuard.Json

/-- A number that a document can hold. -/
inductive Number where
  | natural (n : UInt64)
  /-- The negative integer whose magnitude is given, at most `2 ^ 63`. -/
  | negative (magnitude : UInt64)
  | double (x : Float)

/-- A value; the members of an object have distinct names in ascending order. -/
inductive Value where
  | null
  | bool (b : Bool)
  | number (n : Number)
  | string (text : String)
  | array (items : List Value)
  | object (members : List (String × Value))

/-! ### Reading numbers -/

/-- A power of ten as a double. -/
def powerOfTen (e : Nat) : Float := Float.ofScientific 1 false e

/-- A double divided by `10 ^ e`, in steps that are themselves doubles. -/
def divideByPower (x : Float) (e : Nat) : Float :=
  if e ≤ 308 then x / powerOfTen e
  else if x == 0 then x
  else divideByPower (x / powerOfTen 308) (e - 308)
termination_by e

/-- The double of `significand * 10 ^ e`, by one rounding for the significand and one for each
multiplication or division; none beyond the largest double. -/
def scaled? (significand : Nat) (e : Int) : Option Float :=
  let x := significand.toUInt64.toFloat
  if e < 0 then some (divideByPower x e.natAbs)
  else if e.toNat ≤ 308 then
    let y := x * powerOfTen e.toNat
    if y.isInf then none else some y
  else if x == 0 then some x
  else none

/-- The digits taken up by a 64-bit significand, and how many digits are left over. -/
def significand (acc : Nat) : List Nat → Nat × Nat
  | [] => (acc, 0)
  | d :: ds =>
    if acc * 10 + d < UInt64.size then significand (acc * 10 + d) ds else (acc, ds.length + 1)

/-- The exponent written by digits: `none` when it leaves the range of 32 bits. -/
def exponentValue? (digits : List Nat) : Option Nat :=
  let n := digits.foldl (fun n d => n * 10 + d) 0
  if n < UInt32.size / 2 then some n else none

/-- The double that a numeral with fraction, exponent or too many digits stands for. -/
def Numeral.magnitude? (n : Numeral) : Option Float :=
  let (whole, dropped) := significand 0 n.whole
  let (digits, left) := significand whole n.fraction
  let e : Int := dropped - (n.fraction.length - left : Nat)
  match n.exponent with
  | none => scaled? digits e
  | some (down, ds) =>
    match exponentValue? ds with
    | none => if digits ≠ 0 ∧ !down then none else some 0
    | some k => scaled? digits (if down then e - k else e + k)

/-- The number that a numeral stands for; `none` beyond the largest double. -/
def Numeral.number? (n : Numeral) : Option Number :=
  let (whole, dropped) := significand 0 n.whole
  if n.fraction = [] ∧ n.exponent = none ∧ dropped = 0 ∧
      (!n.negative ∨ (0 < whole ∧ whole ≤ UInt64.size / 2)) then
    some (if n.negative then .negative whole.toUInt64 else .natural whole.toUInt64)
  else n.magnitude?.map fun x => .double (if n.negative then -x else x)

/-! ### Reading values -/

/-- A member put in its place among members in ascending order; an old one of that name goes. -/
def insertMember (name : String) (value : Value) : List (String × Value) → List (String × Value)
  | [] => [(name, value)]
  | (n, v) :: members =>
    if name < n then (name, value) :: (n, v) :: members
    else if name = n then (name, value) :: members
    else (n, v) :: insertMember name value members

/-- The members in ascending order of their names, the last of each name. -/
def sortMembers (members : List (String × Value)) : List (String × Value) :=
  members.foldl (fun found m => insertMember m.1 m.2 found) []

mutual

/-- The value of a tree whose arrays and objects are nested at most `depth` deep. -/
def Value.ofTree? (depth : Nat) : Tree → Option Value
  | .null => some .null
  | .bool b => some (.bool b)
  | .number n => n.number?.map .number
  | .string body => (Piece.text? body).map .string
  | .array items =>
    if depth = 0 then none else (Value.ofTrees? (depth - 1) items).map .array
  | .object members =>
    if depth = 0 then none
    else (Value.ofMembers? (depth - 1) members).map fun ms => .object (sortMembers ms)

/-- The values of the items of an array. -/
def Value.ofTrees? (depth : Nat) : List Tree → Option (List Value)
  | [] => some []
  | tree :: trees => do
    let value ← Value.ofTree? depth tree
    let values ← Value.ofTrees? depth trees
    return value :: values

/-- The values of the members of an object, in the order of the document. -/
def Value.ofMembers? (depth : Nat) :
    List (List Piece × Tree) → Option (List (String × Value))
  | [] => some []
  | (name, tree) :: members => do
    let name ← Piece.text? name
    let value ← Value.ofTree? depth tree
    let values ← Value.ofMembers? depth members
    return (name, value) :: values

end

/-- The value of a document, nested at most 127 deep. -/
def Value.read? (document : Bytes) : Option Value :=
  (Tree.read? document).bind (Value.ofTree? 127)

/-! ### Writing values -/

/-- The digits of a positive double with its point or exponent: positional from `1e-5` up to below
`1e16`, with a zero after the point of a whole number. -/
def Write.doubleDigits (digits : List Char) (e : Int) : List Char :=
  let count : Int := digits.length
  -- the point stands after this many digits
  let point := count + e
  if point < -4 ∨ 16 < point then
    let tail := match digits with
      | [] => []
      | [d] => [d]
      | d :: ds => d :: '.' :: ds
    tail ++ 'e' :: (if point - 1 < 0 then '-' else '+') ::
      Text.Decimal.chars (point - 1).natAbs
  else if point ≤ 0 then "0.".toList ++ List.replicate (-point).toNat '0' ++ digits
  else if 0 ≤ e then digits ++ List.replicate e.toNat '0' ++ ".0".toList
  else digits.take point.toNat ++ '.' :: digits.drop point.toNat

/-- A finite double, by its shortest digits. -/
def Write.double (x : Float) : List Char :=
  let bits := x.toBits
  let size := bits &&& 0x7fffffffffffffff
  let body :=
    if size = 0 then "0.0".toList
    else
      let (digits, e) := Decimal.shortest size
      Write.doubleDigits (Text.Decimal.chars digits) e
  if bits = size then body else '-' :: body

/-- A number. -/
def Number.render : Number → List Char
  | .natural n => Text.Decimal.chars n.toNat
  | .negative n => '-' :: Text.Decimal.chars n.toNat
  | .double x => Write.double x

mutual

/-- The compact form of a value. -/
def Value.render : Value → List Char
  | .null => "null".toList
  | .bool b => Write.bool b
  | .number n => n.render
  | .string text => Write.quote text
  | .array items => Write.array (Value.renderItems items)
  | .object members => Write.object (Value.renderMembers members)

/-- The compact forms of the items of an array. -/
def Value.renderItems : List Value → List (List Char)
  | [] => []
  | item :: items => item.render :: Value.renderItems items

/-- The compact forms of the members of an object. -/
def Value.renderMembers : List (String × Value) → List (List Char)
  | [] => []
  | (name, value) :: members => Write.member name value.render :: Value.renderMembers members

end

end ProfileGuard.Json
