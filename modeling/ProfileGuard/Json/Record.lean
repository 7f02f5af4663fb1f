import ProfileGuard.Json.Tree

/-!
# Records in JSON

How a record with named fields is read from a tree.  A record is an object with its fields in any
order, or an array with its fields in their fixed order.  Unknown members are skipped, a field given
twice is refused, and names must be well-formed even where the value is skipped.

* **`Json.fields?`** — for each field name the tree given for it, if any.
* **`Json.Tree.text?`**, **`Json.Tree.natural?`**, **`Json.Tree.variant?`** — the readings of a tree.
-/

namespace ProfileGuard.Json

namespace Tree

/-- A string. -/
def text? : Tree → Option String
  | .string body => Piece.text? body
  | _ => none

/-- A switch. -/
def bool? : Tree → Option Bool
  | .bool b => some b
  | _ => none

/-- The items of an array. -/
def items? : Tree → Option (List Tree)
  | .array items => some items
  | _ => none

/-- Nothing for `null`, otherwise what `read` makes of the tree. -/
def optional? {α : Type} (read : Tree → Option α) : Tree → Option (Option α)
  | .null => some none
  | tree => (read tree).map some

/-- The value of decimal digits. -/
def digitsValue (digits : List Nat) : Nat := digits.foldl (fun n d => n * 10 + d) 0

/-- A natural number below `bound`, written without sign, point or exponent. -/
def natural? (bound : Nat) : Tree → Option Nat
  | .number ⟨false, whole, [], none⟩ => some (digitsValue whole) |>.filter (· < bound)
  | _ => none

/-- The name of a choice: a string, or an object whose only member has that name and is `null`. -/
def variant? : Tree → Option String
  | .string body => Piece.text? body
  | .object [(name, .null)] => Piece.text? name
  | _ => none

end Tree

/-- The fields of a record, each with the tree given for it so far. -/
abbrev Slots := List (String × Option Tree)

/-- Takes up one member of a record: it fills its field, which must be free, or is skipped. -/
def Slots.put? (name : String) (value : Tree) : Slots → Option Slots
  | [] => some []
  | (field, found) :: slots =>
    if field = name then
      match found with
      | none => some ((field, some value) :: slots)
      | some _ => none
    else (Slots.put? name value slots).map ((field, found) :: ·)

/-- Takes up all members of an object. -/
def Slots.putAll? : List (List Piece × Tree) → Slots → Option Slots
  | [], slots => some slots
  | (name, value) :: members, slots => do
    let name ← Piece.text? name
    let slots ← slots.put? name value
    Slots.putAll? members slots

/-- The trees given for the fields of a record, in the order of `names`. -/
def fields? (names : List String) : Tree → Option (List (Option Tree))
  | .object members =>
    (Slots.putAll? members (names.map fun name => (name, none))).map (·.map Prod.snd)
  | .array items =>
    if items.length ≤ names.length then
      some (items.map some ++ List.replicate (names.length - items.length) none)
    else none
  | _ => none

end ProfileGuard.Json
