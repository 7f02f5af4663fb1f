import ProfileGuard.Json.Record
import ProfileGuard.Proofs.Json.Text

/-!
# Written documents read back

A written value is kept together with the tree that it is read as, and composed like a value is written: texts,
arrays of written values and objects of named ones.  That the reader makes that tree of those characters is
proved once for each way of composing.

* **`Json.ReadsAs`** — the reader makes this tree of these characters.
* **`Json.Written`** — a written value with its tree.
* **`Json.Written.text`**, **`Json.Written.bool`** — the values that contain no others.
* **`Json.Written.array`**, **`Json.Written.object`** — the ways of composing.
* **`Json.Written.read?_chars`** — a written document is read as its tree.
-/

namespace ProfileGuard.Json

/-! ### Values by their first byte -/

theorem readValue?_quote (fuel : Nat) (bs : Bytes) :
    readValue? (fuel + 1) (0x22 :: bs) =
      (readPieces? bs).map fun (body, rest) => (.string body, rest) := rfl

theorem readValue?_bracket (fuel : Nat) {bs after : Bytes} {b : UInt8}
    (trimmed : skipSpace bs = b :: after) (more : b ≠ 0x5D) :
    readValue? (fuel + 1) (0x5B :: bs) =
      (readItems? fuel (b :: after)).map fun (items, rest) => (.array items, rest) := by
  rw [readValue?, trimmed]
  split
  next heq => exact absurd (List.cons.inj heq).1 more
  next => rfl

theorem readValue?_brace (fuel : Nat) {bs after : Bytes} {b : UInt8}
    (trimmed : skipSpace bs = b :: after) (more : b ≠ 0x7D) :
    readValue? (fuel + 1) (0x7B :: bs) =
      (readMembers? fuel (b :: after)).map fun (members, rest) => (.object members, rest) := by
  rw [readValue?, trimmed]
  split
  next heq => exact absurd (List.cons.inj heq).1 more
  next => rfl

/-- What begins like nothing else is a number. -/
theorem readValue?_numeral (fuel : Nat) {b : UInt8} (bs : Bytes)
    (other : b ∉ [0x6E, 0x74, 0x66, 0x22, 0x5B, 0x7B]) :
    readValue? (fuel + 1) (b :: bs) =
      (readNumeral? (b :: bs)).map fun (n, rest) => (.number n, rest) := by
  rw [readValue?]
  all_goals
    rintro _ heq
    rw [(List.cons.inj heq).1] at other
    exact other (by decide)

/-! ### Characters and their tree -/

/-- What may follow a value: nothing, or the next token of the array or object around it. -/
def FollowsValue (rest : Bytes) : Prop :=
  ∀ b ∈ rest.head?, b = 0x2C ∨ b = 0x5D ∨ b = 0x7D

/-- The reader makes this tree of these characters, given two calls for each byte. -/
structure ReadsAs (chars : List Char) (tree : Tree) : Prop where
  /-- A value begins with neither a blank nor the end of an array. -/
  starts : ∃ b bs, Bytes.ofChars chars = b :: bs ∧ isSpace b = false ∧ b ≠ 0x5D
  reads : ∀ fuel rest, 2 * (Bytes.ofChars chars).length ≤ fuel → FollowsValue rest →
    readValue? fuel (Bytes.ofChars chars ++ rest) = some (tree, rest)

/-- A written value with the tree it is read as. -/
structure Written where
  chars : List Char
  tree : Tree
  readsAs : ReadsAs chars tree

theorem skipSpace_cons {b : UInt8} (h : isSpace b = false) (bs : Bytes) :
    skipSpace (b :: bs) = b :: bs := by
  rw [skipSpace, List.dropWhile_cons, h]
  rfl

theorem ReadsAs.skipSpace_append {chars : List Char} {tree : Tree} (h : ReadsAs chars tree)
    (rest : Bytes) : skipSpace (Bytes.ofChars chars ++ rest) = Bytes.ofChars chars ++ rest := by
  obtain ⟨b, bs, hbytes, hspace, -⟩ := h.starts
  rw [hbytes, List.cons_append, skipSpace_cons hspace]

theorem FollowsValue.cons {b : UInt8} (h : b = 0x2C ∨ b = 0x5D ∨ b = 0x7D) (rest : Bytes) :
    FollowsValue (b :: rest) := by
  intro c hc
  cases hc
  exact h

/-- A value is read by its first byte, with what follows it as the reader goes on. -/
theorem ReadsAs.of_cons {chars : List Char} {tree : Tree} (b : UInt8) (bs : Bytes)
    (hbytes : Bytes.ofChars chars = b :: bs) (hspace : isSpace b = false) (hclose : b ≠ 0x5D)
    (hread : ∀ fuel rest, 2 * bs.length + 1 ≤ fuel → FollowsValue rest →
      readValue? (fuel + 1) (b :: (bs ++ rest)) = some (tree, rest)) : ReadsAs chars tree where
  starts := ⟨b, bs, hbytes, hspace, hclose⟩
  reads := by
    intro fuel rest hfuel hrest
    rw [hbytes, List.length_cons] at hfuel
    rw [hbytes, List.cons_append]
    cases fuel with
    | zero => omega
    | succ fuel => exact hread fuel rest (by omega) hrest

/-! ### Texts -/

theorem readsAs_quote (text : String) :
    ReadsAs (Write.quote text) (.string (Piece.ofText text)) := by
  refine ReadsAs.of_cons 0x22 (Bytes.ofChars (text.toList.flatMap Write.escape) ++ [0x22])
    (by rw [Write.quote, Bytes.ofChars_cons, Bytes.ofChars_append]; rfl) rfl (by decide) ?_
  intro fuel rest hfuel hrest
  rw [List.append_assoc, List.singleton_append, readValue?_quote, readPieces?_quote]
  rfl

/-- A written text. -/
def Written.text (text : String) : Written := ⟨Write.quote text, _, readsAs_quote text⟩

/-! ### Switches -/

theorem readsAs_bool (b : Bool) : ReadsAs (Write.bool b) (.bool b) := by
  cases b with
  | true => exact ReadsAs.of_cons 0x74 [0x72, 0x75, 0x65] rfl rfl (by decide) fun _ _ _ _ => rfl
  | false => exact ReadsAs.of_cons 0x66 [0x61, 0x6C, 0x73, 0x65] rfl rfl (by decide) fun _ _ _ _ => rfl

/-- A written switch. -/
def Written.bool (b : Bool) : Written := ⟨Write.bool b, _, readsAs_bool b⟩

/-! ### Pieces between commas -/

theorem ofChars_commas (piece next : List Char) (pieces : List (List Char)) :
    Bytes.ofChars (Write.commas (piece :: next :: pieces)) =
      Bytes.ofChars piece ++ 0x2C :: Bytes.ofChars (Write.commas (next :: pieces)) := by
  rw [Write.commas, Bytes.ofChars_append, Bytes.ofChars_cons]
  · rfl
  · simp

/-- Pieces between commas begin like the first of them. -/
theorem exists_append_commas (piece : List Char) (pieces : List (List Char)) :
    ∃ after, Bytes.ofChars (Write.commas (piece :: pieces)) = Bytes.ofChars piece ++ after := by
  cases pieces with
  | nil => exact ⟨[], (List.append_nil _).symm⟩
  | cons next pieces => exact ⟨_, ofChars_commas piece next pieces⟩

/-! ### Arrays -/

theorem readItems?_last (item : Written) {fuel : Nat}
    (hfuel : 2 * (Bytes.ofChars item.chars).length ≤ fuel) (rest : Bytes) :
    readItems? (fuel + 1) (Bytes.ofChars item.chars ++ 0x5D :: rest) =
      some ([item.tree], rest) := by
  rw [readItems?, item.readsAs.reads fuel (0x5D :: rest) hfuel (.cons (by decide) rest)]
  rfl

theorem readItems?_more (item : Written) {fuel : Nat}
    (hfuel : 2 * (Bytes.ofChars item.chars).length ≤ fuel) (rest : Bytes) :
    readItems? (fuel + 1) (Bytes.ofChars item.chars ++ 0x2C :: rest) =
      (readItems? fuel (skipSpace rest)).map fun (trees, rest) => (item.tree :: trees, rest) := by
  rw [readItems?, item.readsAs.reads fuel (0x2C :: rest) hfuel (.cons (by decide) rest),
    Option.bind_eq_bind, Option.bind_some]
  simp only [skipSpace_cons (by decide : isSpace 0x2C = false)]
  cases readItems? fuel (skipSpace rest) <;> rfl

theorem skipSpace_commas (item : Written) (items : List Written) (rest : Bytes) :
    skipSpace (Bytes.ofChars (Write.commas ((item :: items).map Written.chars)) ++ rest) =
      Bytes.ofChars (Write.commas ((item :: items).map Written.chars)) ++ rest := by
  obtain ⟨after, hafter⟩ := exists_append_commas item.chars (items.map Written.chars)
  rw [List.map_cons, hafter, List.append_assoc, item.readsAs.skipSpace_append]

/-- The items of an array, one or more, are read up to the closing bracket. -/
theorem readItems?_commas (item : Written) (items : List Written) (fuel : Nat)
    (hfuel : 2 * (Bytes.ofChars (Write.commas ((item :: items).map Written.chars))).length + 1 ≤ fuel)
    (rest : Bytes) :
    readItems? fuel
        (Bytes.ofChars (Write.commas ((item :: items).map Written.chars)) ++ 0x5D :: rest) =
      some ((item :: items).map Written.tree, rest) := by
  obtain ⟨fuel, rfl⟩ := Nat.exists_eq_add_one.2 (by omega : 0 < fuel)
  induction items generalizing item fuel with
  | nil =>
    rw [List.map_singleton, Write.commas] at hfuel ⊢
    exact readItems?_last item (by omega) rest
  | cons next items ih =>
    rw [List.map_cons, List.map_cons, ofChars_commas, List.length_append, List.length_cons,
      ← List.map_cons] at hfuel
    obtain ⟨fuel, rfl⟩ := Nat.exists_eq_add_one.2 (by omega : 0 < fuel)
    rw [List.map_cons, List.map_cons, ofChars_commas, ← List.map_cons, List.append_assoc,
      List.cons_append, readItems?_more item (by omega), skipSpace_commas,
      ih next fuel (by omega)]
    rfl

theorem readsAs_array (items : List Written) :
    ReadsAs (Write.array (items.map Written.chars)) (.array (items.map Written.tree)) := by
  refine ReadsAs.of_cons 0x5B (Bytes.ofChars (Write.commas (items.map Written.chars)) ++ [0x5D])
    (by rw [Write.array, Bytes.ofChars_cons, Bytes.ofChars_append]; rfl) rfl (by decide) ?_
  intro fuel rest hfuel hrest
  rw [List.length_append] at hfuel
  rw [List.append_assoc, List.singleton_append]
  cases items with
  | nil => rfl
  | cons item items =>
    obtain ⟨after, hafter⟩ := exists_append_commas item.chars (items.map Written.chars)
    obtain ⟨b, bs, hbytes, -, hclose⟩ := item.readsAs.starts
    have hitems := readItems?_commas item items fuel (by omega) rest
    have htrimmed := skipSpace_commas item items (0x5D :: rest)
    rw [List.map_cons, hafter, hbytes, List.cons_append, List.cons_append] at hitems htrimmed ⊢
    rw [readValue?_bracket fuel htrimmed hclose, hitems]
    rfl

/-- A written array. -/
def Written.array (items : List Written) : Written :=
  ⟨Write.array (items.map Written.chars), _, readsAs_array items⟩

/-! ### Objects -/

/-- A member as it is written. -/
def memberChars (m : String × Written) : List Char := Write.member m.1 m.2.chars

/-- A member as it is read. -/
def memberTree (m : String × Written) : List Piece × Tree := (Piece.ofText m.1, m.2.tree)

theorem ofChars_memberChars (m : String × Written) :
    Bytes.ofChars (memberChars m) =
      0x22 :: (Bytes.ofChars (m.1.toList.flatMap Write.escape) ++
        0x22 :: 0x3A :: Bytes.ofChars m.2.chars) := by
  rw [memberChars, Write.member, Bytes.ofChars_append, Write.quote, Bytes.ofChars_cons,
    Bytes.ofChars_append, List.append_assoc, List.append_assoc]
  rfl

theorem readMembers?_last (m : String × Written) {fuel : Nat}
    (hfuel : 2 * (Bytes.ofChars m.2.chars).length ≤ fuel) (rest : Bytes) :
    readMembers? (fuel + 1) (Bytes.ofChars (memberChars m) ++ 0x7D :: rest) =
      some ([memberTree m], rest) := by
  rw [ofChars_memberChars]
  simp only [List.cons_append, List.append_assoc, readMembers?, readPieces?_quote,
    Option.bind_eq_bind, Option.bind_some, skipSpace_cons (by decide : isSpace 0x3A = false),
    m.2.readsAs.skipSpace_append,
    m.2.readsAs.reads fuel (0x7D :: rest) hfuel (.cons (by decide) rest),
    skipSpace_cons (by decide : isSpace 0x7D = false)]
  rfl

theorem readMembers?_more (m : String × Written) {fuel : Nat}
    (hfuel : 2 * (Bytes.ofChars m.2.chars).length ≤ fuel) (rest : Bytes) :
    readMembers? (fuel + 1) (Bytes.ofChars (memberChars m) ++ 0x2C :: rest) =
      (readMembers? fuel (skipSpace rest)).map fun (trees, rest) =>
        (memberTree m :: trees, rest) := by
  rw [ofChars_memberChars]
  simp only [List.cons_append, List.append_assoc, readMembers?, readPieces?_quote,
    Option.bind_eq_bind, Option.bind_some, skipSpace_cons (by decide : isSpace 0x3A = false),
    m.2.readsAs.skipSpace_append,
    m.2.readsAs.reads fuel (0x2C :: rest) hfuel (.cons (by decide) rest),
    skipSpace_cons (by decide : isSpace 0x2C = false)]
  cases readMembers? fuel (skipSpace rest) <;> rfl

/-- Members begin with a quote. -/
theorem exists_cons_members (m : String × Written) (members : List (String × Written)) :
    ∃ bs, Bytes.ofChars (Write.commas ((m :: members).map memberChars)) = 0x22 :: bs := by
  obtain ⟨after, hafter⟩ := exists_append_commas (memberChars m) (members.map memberChars)
  rw [List.map_cons, hafter, ofChars_memberChars]
  exact ⟨_, rfl⟩

/-- The members of an object, one or more, are read up to the closing brace. -/
theorem readMembers?_commas (m : String × Written) (members : List (String × Written)) (fuel : Nat)
    (hfuel : 2 * (Bytes.ofChars (Write.commas ((m :: members).map memberChars))).length + 1 ≤ fuel)
    (rest : Bytes) :
    readMembers? fuel
        (Bytes.ofChars (Write.commas ((m :: members).map memberChars)) ++ 0x7D :: rest) =
      some ((m :: members).map memberTree, rest) := by
  obtain ⟨fuel, rfl⟩ := Nat.exists_eq_add_one.2 (by omega : 0 < fuel)
  induction members generalizing m fuel with
  | nil =>
    rw [List.map_singleton, Write.commas, ofChars_memberChars] at hfuel
    rw [List.map_singleton, Write.commas]
    simp only [List.length_cons, List.length_append] at hfuel
    exact readMembers?_last m (by omega) rest
  | cons next members ih =>
    obtain ⟨bs, hbytes⟩ := exists_cons_members next members
    simp only [List.map_cons, ofChars_commas, ofChars_memberChars m, List.length_append,
      List.length_cons] at hfuel
    obtain ⟨fuel, rfl⟩ := Nat.exists_eq_add_one.2 (by omega : 0 < fuel)
    have hmembers := ih next fuel (by rw [List.map_cons]; omega)
    rw [hbytes, List.cons_append] at hmembers
    rw [List.map_cons, List.map_cons, ofChars_commas, ← List.map_cons, List.append_assoc,
      List.cons_append, readMembers?_more m (by omega), hbytes, List.cons_append,
      skipSpace_cons rfl, hmembers]
    rfl

theorem readsAs_object (members : List (String × Written)) :
    ReadsAs (Write.object (members.map memberChars)) (.object (members.map memberTree)) := by
  refine ReadsAs.of_cons 0x7B (Bytes.ofChars (Write.commas (members.map memberChars)) ++ [0x7D])
    (by rw [Write.object, Bytes.ofChars_cons, Bytes.ofChars_append]; rfl) rfl (by decide) ?_
  intro fuel rest hfuel hrest
  rw [List.length_append] at hfuel
  rw [List.append_assoc, List.singleton_append]
  cases members with
  | nil => rfl
  | cons m members =>
    obtain ⟨bs, hbytes⟩ := exists_cons_members m members
    have hmembers := readMembers?_commas m members fuel (by omega) rest
    rw [hbytes, List.cons_append] at hmembers ⊢
    rw [readValue?_brace fuel (skipSpace_cons rfl _) (by decide), hmembers]
    rfl

/-- A written object. -/
def Written.object (members : List (String × Written)) : Written :=
  ⟨Write.object (members.map memberChars), _, readsAs_object members⟩

/-! ### Documents -/

/-- A written document is read as its tree. -/
theorem Written.read?_chars (w : Written) :
    Tree.read? (Bytes.ofChars w.chars) = some w.tree := by
  have hread := w.readsAs.reads (2 * (Bytes.ofChars w.chars).length + 2) [] (by omega)
    (by intro b hb; cases hb)
  have hskip := w.readsAs.skipSpace_append []
  rw [List.append_nil] at hread hskip
  rw [Tree.read?, hskip, hread]
  rfl

end ProfileGuard.Json
