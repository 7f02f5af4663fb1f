import Mathlib.Data.List.Nodup
import ProfileGuard.Proofs.Json.Numeral

/-!
# Written records read back

A record is written as an object of the fields that have a value, and read by filling a slot for each
field.  With different names the slots end up as the fields were.

* **`Json.Written.text?_tree`**, **`Json.Written.bool?_tree`**, **`Json.Written.natural?_tree`** — the values
  of fields read back.
* **`Json.given`** — the fields that have a value.
* **`Json.Slots.putAll?_given`** — taking up the members fills the slots in turn.
* **`Json.fields?_given`** — the fields of a written record are read back.
-/

namespace ProfileGuard.Json

/-! ### Values -/

namespace Written

theorem text?_tree (text : String) : (Written.text text).tree.text? = some text :=
  Piece.text?_ofText text

theorem bool?_tree (b : Bool) : (Written.bool b).tree.bool? = some b := rfl

/-- A written natural number is read back below any bound that it keeps. -/
theorem natural?_tree {n bound : Nat} (h : n < bound) :
    (Written.natural n).tree.natural? bound = some n := by
  show (some (Tree.digitsValue (digitValues (Text.Decimal.chars n)))).filter (· < bound) = _
  rw [digitsValue_chars]
  exact Option.filter_some_pos (decide_eq_true h)

end Written

/-- Items that are read back one by one are read back together. -/
theorem mapM_map_eq_some {α β : Type} {read : β → Option α} {write : α → β}
    (h : ∀ a, read (write a) = some a) (items : List α) :
    (items.map write).mapM read = some items := by
  have hpure : read ∘ write = fun a => pure a := funext h
  rw [List.mapM_map, hpure, List.mapM_pure]
  exact congrArg some (List.map_id items)

/-! ### Fields -/

/-- The fields that have a value, in their order. -/
def given (fields : List (String × Option Written)) : List (String × Written) :=
  fields.filterMap fun f => f.2.map fun w => (f.1, w)

theorem Slots.put?_append {name : String} (value : Tree) {done : Slots} (rest : Slots)
    (h : name ∉ done.map Prod.fst) :
    Slots.put? name value (done ++ (name, none) :: rest) =
      some (done ++ (name, some value) :: rest) := by
  induction done with
  | nil => simp [Slots.put?]
  | cons slot done ih =>
    obtain ⟨field, found⟩ := slot
    rw [List.map_cons, List.mem_cons, not_or] at h
    simp only [List.cons_append, Slots.put?, if_neg (Ne.symm h.1), ih h.2, Option.map_some]

/-- Taking up the members of a record fills the slots from where they are still empty. -/
theorem Slots.putAll?_given (fields : List (String × Option Written)) (done : Slots)
    (h : (done.map Prod.fst ++ fields.map Prod.fst).Nodup) :
    Slots.putAll? ((given fields).map memberTree) (done ++ fields.map fun f => (f.1, none)) =
      some (done ++ fields.map fun f => (f.1, f.2.map Written.tree)) := by
  induction fields generalizing done with
  | nil => rfl
  | cons field fields ih =>
    obtain ⟨name, value⟩ := field
    have hname : name ∉ done.map Prod.fst := by
      intro hmem
      exact (List.nodup_append.1 h).2.2 name hmem name List.mem_cons_self rfl
    have hnext (slot : Option Tree) :
        ((done ++ [(name, slot)]).map Prod.fst ++ fields.map Prod.fst).Nodup := by
      simpa using h
    cases value with
    | none =>
      have hrest := ih (done ++ [(name, none)]) (hnext none)
      simpa [given] using hrest
    | some w =>
      have hrest := ih (done ++ [(name, some w.tree)]) (hnext (some w.tree))
      have hput := Slots.put?_append w.tree (fields.map fun f => (f.1, none)) hname
      rw [List.append_assoc, List.singleton_append, List.append_assoc] at hrest
      show (Piece.text? (Piece.ofText name)).bind _ = _
      rw [Piece.text?_ofText, Option.bind_some]
      show (Slots.put? name w.tree (done ++ (name, none) :: fields.map fun f => (f.1, none))).bind _ = _
      rw [hput, Option.bind_some]
      exact hrest

/-- The fields of a written record are read back under their names. -/
theorem fields?_given {fields : List (String × Option Written)} {names : List String}
    (hnames : fields.map Prod.fst = names) (distinct : names.Nodup) :
    fields? names (Written.object (given fields)).tree =
      some (fields.map fun f => f.2.map Written.tree) := by
  subst hnames
  have hput := Slots.putAll?_given fields [] distinct
  rw [List.nil_append, List.nil_append] at hput
  show (Slots.putAll? ((given fields).map memberTree)
    ((fields.map Prod.fst).map fun name => (name, none))).map _ = _
  rw [List.map_map]
  show (Slots.putAll? ((given fields).map memberTree) (fields.map fun f => (f.1, none))).map _ = _
  rw [hput, Option.map_some, List.map_map]
  rfl

end ProfileGuard.Json
