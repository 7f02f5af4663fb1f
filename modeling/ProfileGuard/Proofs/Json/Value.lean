import ProfileGuard.Proofs.Entries
import ProfileGuard.Proofs.Json.Numeral

/-!
# Values written and read back

Members are kept in the order of their names, however they were given; so the members of a value are written
in that order, and putting them in order again as they are read changes nothing.  A value of integers, texts
and switches that is not nested too deep is therefore what its own text stands for.  Doubles are left out:
their digits are rounded as they are read.

* **`Json.sortMembers_eq`** — members in order are entries in order.
* **`Json.Value.IsExact`** — a value without doubles, its members in order, nested up to a depth.
* **`Json.Value.exists_readsAs`** — such a value is written as a tree that stands for it.
* **`Json.Value.read?_render`** — a written document is read as the value it was.
-/

namespace ProfileGuard.Json

/-! ### Members in order -/

theorem insertMember_eq (name : String) (value : Value) (members : List (String × Value)) :
    insertMember name value members = Entries.put name value members := by
  induction members with
  | nil => rfl
  | cons first members ih => rw [insertMember, Entries.put, ih]

/-- Members are put in order one after another. -/
theorem sortMembers_eq (members : List (String × Value)) :
    sortMembers members = Entries.ofList members := by
  simp only [sortMembers, insertMember_eq]
  rfl

/-- Of members with one name the last counts. -/
theorem lookup_sortMembers (members : List (String × Value)) (name : String) :
    (sortMembers members).lookup name = members.reverse.lookup name := by
  rw [sortMembers_eq]
  exact Entries.lookup_ofList members name

/-! ### Values that are what their text stands for -/

/-- A number that is no double. -/
def Number.IsInteger : Number → Prop
  | .natural _ => True
  | .negative magnitude => 0 < magnitude.toNat ∧ magnitude.toNat ≤ UInt64.size / 2
  | .double _ => False

mutual

/-- A value without doubles whose members are in order, nested at most `depth` deep. -/
def Value.IsExact (depth : Nat) : Value → Prop
  | .number n => n.IsInteger
  | .array items => 0 < depth ∧ Value.AreExact (depth - 1) items
  | .object members =>
    0 < depth ∧ (members.map Prod.fst).Pairwise (· < ·) ∧ Value.AreExactMembers (depth - 1) members
  | _ => True

/-- Items of an array that are such values. -/
def Value.AreExact (depth : Nat) : List Value → Prop
  | [] => True
  | item :: items => item.IsExact depth ∧ Value.AreExact depth items

/-- Members of an object that are such values. -/
def Value.AreExactMembers (depth : Nat) : List (String × Value) → Prop
  | [] => True
  | (_, value) :: members => value.IsExact depth ∧ Value.AreExactMembers depth members

end

theorem Value.areExactMembers_iff {depth : Nat} {members : List (String × Value)} :
    AreExactMembers depth members ↔ ∀ m ∈ members, m.2.IsExact depth := by
  induction members with
  | nil => simp [AreExactMembers]
  | cons m members ih => rw [AreExactMembers, ih, List.forall_mem_cons]

theorem readsAs_null : ReadsAs "null".toList .null :=
  ReadsAs.of_cons 0x6E [0x75, 0x6C, 0x6C] rfl rfl (by decide) fun _ _ _ _ => rfl

/-- An integer is written as a numeral that stands for it. -/
theorem Number.exists_readsAs {n : Number} (h : n.IsInteger) :
    ∃ numeral : Numeral, ReadsAs n.render (.number numeral) ∧ numeral.number? = some n := by
  cases n with
  | natural n => exact ⟨_, readsAs_natural n.toNat, Numeral.number?_natural n⟩
  | negative n => exact ⟨_, readsAs_negative n.toNat, Numeral.number?_negative h.1 h.2⟩
  | double x => exact absurd h id

mutual

/-- A value is written as a tree that stands for it. -/
theorem Value.exists_readsAs {depth : Nat} : ∀ {v : Value}, v.IsExact depth →
    ∃ tree, ReadsAs v.render tree ∧ Value.ofTree? depth tree = some v
  | .null, _ => ⟨.null, by rw [render]; exact readsAs_null, rfl⟩
  | .bool b, _ => ⟨.bool b, by rw [render]; exact readsAs_bool b, rfl⟩
  | .string text, _ => by
    refine ⟨_, by rw [render]; exact readsAs_quote text, ?_⟩
    rw [ofTree?, Piece.text?_ofText]
    rfl
  | .number n, h => by
    rw [IsExact] at h
    obtain ⟨numeral, hreads, hnumber⟩ := Number.exists_readsAs h
    refine ⟨.number numeral, by rw [render]; exact hreads, ?_⟩
    rw [ofTree?, hnumber]
    rfl
  | .array items, h => by
    rw [IsExact] at h
    obtain ⟨ws, hchars, htrees⟩ := Value.exists_items h.2
    refine ⟨_, by rw [render, ← hchars]; exact readsAs_array ws, ?_⟩
    rw [ofTree?, if_neg (Nat.pos_iff_ne_zero.mp h.1), htrees]
    rfl
  | .object members, h => by
    rw [IsExact] at h
    obtain ⟨ws, hchars, htrees⟩ := Value.exists_members h.2.2
    refine ⟨_, by rw [render, ← hchars]; exact readsAs_object ws, ?_⟩
    rw [ofTree?, if_neg (Nat.pos_iff_ne_zero.mp h.1), htrees, Option.map_some,
      sortMembers_eq, Entries.ofList_of_isAscending h.2.1]

/-- Items are written as trees that stand for them. -/
theorem Value.exists_items {depth : Nat} : ∀ {items : List Value}, Value.AreExact depth items →
    ∃ ws : List Written, ws.map Written.chars = Value.renderItems items ∧
      Value.ofTrees? depth (ws.map Written.tree) = some items
  | [], _ => ⟨[], rfl, rfl⟩
  | item :: items, h => by
    rw [AreExact] at h
    obtain ⟨tree, hreads, htree⟩ := Value.exists_readsAs h.1
    obtain ⟨ws, hchars, htrees⟩ := Value.exists_items h.2
    refine ⟨⟨item.render, tree, hreads⟩ :: ws, by rw [List.map_cons, hchars, renderItems], ?_⟩
    rw [List.map_cons, ofTrees?, htree, htrees]
    rfl

/-- Members are written as trees that stand for them. -/
theorem Value.exists_members {depth : Nat} : ∀ {members : List (String × Value)},
    Value.AreExactMembers depth members →
    ∃ ws : List (String × Written), ws.map memberChars = Value.renderMembers members ∧
      Value.ofMembers? depth (ws.map memberTree) = some members
  | [], _ => ⟨[], rfl, rfl⟩
  | (name, value) :: members, h => by
    rw [AreExactMembers] at h
    obtain ⟨tree, hreads, htree⟩ := Value.exists_readsAs h.1
    obtain ⟨ws, hchars, htrees⟩ := Value.exists_members h.2
    refine ⟨(name, ⟨value.render, tree, hreads⟩) :: ws,
      by rw [List.map_cons, hchars, renderMembers]; rfl, ?_⟩
    rw [List.map_cons, memberTree, ofMembers?, Piece.text?_ofText, htree, htrees]
    rfl

end

/-- A written document is read as the value it was. -/
theorem Value.read?_render {v : Value} (h : v.IsExact 127) :
    Value.read? (Bytes.ofChars v.render) = some v := by
  obtain ⟨tree, hreads, htree⟩ := Value.exists_readsAs h
  rw [read?, Written.read?_chars ⟨v.render, tree, hreads⟩]
  exact htree

end ProfileGuard.Json
