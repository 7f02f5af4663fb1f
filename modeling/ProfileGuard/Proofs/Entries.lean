import Mathlib.Data.List.Induction
import Mathlib.Data.List.Nodup

/-!
# Entries in the order of their names

Keys by version, members by name and switches by name are kept alike: as entries whose names ascend, so that
each name stands once.  A new entry is put in its place, where it takes over from an old one of its name.

* **`Entries.put`** / **`Entries.ofList`** — an entry put in its place, and entries put one after another.
* **`Entries.IsAscending`** — the names ascend; putting entries keeps it so, in whatever order they come.
* **`Entries.lookup_put`** / **`Entries.lookup_ofList`** — of one name the last counts.
* **`Entries.ofList_perm`** — entries of different names are only put in order.
* **`Entries.ofList_of_isAscending`** — entries in order stay as they are.
-/

namespace ProfileGuard.Entries

variable {α β : Type} {name : α} {value : β} {entries given : List (α × β)}

/-! ### Names in order -/

section Order

variable [LT α]

/-- The names ascend, so that each stands once. -/
def IsAscending (entries : List (α × β)) : Prop := (entries.map Prod.fst).Pairwise (· < ·)

instance [DecidableLT α] (entries : List (α × β)) : Decidable (IsAscending entries) :=
  inferInstanceAs (Decidable (List.Pairwise _ _))

/-- In entries in order, a name is above those before it. -/
theorem IsAscending.above {before after : List (α × β)}
    (h : IsAscending (before ++ (name, value) :: after)) : ∀ n ∈ before.map Prod.fst, n < name := by
  intro n hn
  rw [IsAscending, List.map_append, List.pairwise_append] at h
  exact h.2.2 n hn name List.mem_cons_self

theorem IsAscending.nodup [Std.Irrefl fun a b : α => a < b] (h : IsAscending entries) :
    (entries.map Prod.fst).Nodup := by
  refine List.Pairwise.imp ?_ h
  rintro n m hlt rfl
  exact Std.lt_irrefl hlt

end Order

variable [DecidableEq α]

/-! ### What is seen at a name -/

theorem lookup_cons (e : α × β) (entries : List (α × β)) (other : α) :
    (e :: entries).lookup other = if other = e.1 then some e.2 else entries.lookup other := by
  rw [List.lookup_cons]
  by_cases h : other = e.1
  · rw [if_pos h, h, beq_self_eq_true]
  · rw [if_neg h, beq_eq_false_iff_ne.mpr h]

/-- An entry is seen at its name, where there is no other of that name. -/
theorem lookup_of_mem (distinct : (entries.map Prod.fst).Nodup) (h : (name, value) ∈ entries) :
    entries.lookup name = some value := by
  obtain ⟨before, after, rfl⟩ := List.append_of_mem h
  rw [List.map_append, List.nodup_append] at distinct
  refine List.lookup_eq_some_iff.mpr ⟨before, after, rfl, fun e he => ?_⟩
  rw [bne_iff_ne]
  exact (distinct.2.2 e.1 (List.mem_map_of_mem he) _ List.mem_cons_self).symm

/-! ### One entry -/

variable [LT α] [DecidableLT α]

/-- The entries with one put in its place; an old one of that name goes. -/
def put (name : α) (value : β) : List (α × β) → List (α × β)
  | [] => [(name, value)]
  | (n, v) :: rest =>
    if name < n then (name, value) :: (n, v) :: rest
    else if name = n then (name, value) :: rest
    else (n, v) :: put name value rest

theorem mem_put {e : α × β} (h : e ∈ put name value entries) : e = (name, value) ∨ e ∈ entries := by
  induction entries with
  | nil => exact .inl (List.mem_singleton.mp h)
  | cons first rest ih =>
    rw [put] at h
    split at h
    · exact List.mem_cons.mp h
    · split at h
      · exact (List.mem_cons.mp h).imp_right (List.mem_cons_of_mem _)
      · rcases List.mem_cons.mp h with rfl | h
        · exact .inr List.mem_cons_self
        · exact (ih h).imp_right (List.mem_cons_of_mem _)

/-- An entry put in its place is seen at its name only. -/
theorem lookup_put (name : α) (value : β) (entries : List (α × β)) (other : α) :
    (put name value entries).lookup other =
      if other = name then some value else entries.lookup other := by
  induction entries with
  | nil => exact lookup_cons (name, value) [] other
  | cons first rest ih =>
    rw [put]
    split
    · exact lookup_cons (name, value) _ other
    · split
      · rename_i heq
        rw [lookup_cons, lookup_cons, ← heq]
        by_cases h : other = name <;> simp [h]
      · rename_i hne
        rw [lookup_cons, lookup_cons, ih]
        by_cases h : other = first.1
        · rw [if_pos h, if_pos h, if_neg fun hname => hne (hname.symm.trans h)]
        · rw [if_neg h, if_neg h]

/-- An entry of a new name is one more. -/
theorem put_perm (fresh : name ∉ entries.map Prod.fst) :
    (put name value entries).Perm ((name, value) :: entries) := by
  induction entries with
  | nil => exact List.Perm.refl _
  | cons first rest ih =>
    obtain ⟨n, v⟩ := first
    rw [List.map_cons, List.mem_cons, not_or] at fresh
    rw [put]
    split
    · exact List.Perm.refl _
    · rw [if_neg fresh.1]
      exact ((ih fresh.2).cons (n, v)).trans (List.Perm.swap _ _ _)

/-! ### Entries one after another -/

/-- The entries given one after another; of one name the last counts. -/
def ofList (given : List (α × β)) : List (α × β) :=
  given.foldl (fun entries e => put e.1 e.2 entries) []

theorem ofList_concat (given : List (α × β)) (e : α × β) :
    ofList (given ++ [e]) = put e.1 e.2 (ofList given) := by
  rw [ofList, List.foldl_concat]
  rfl

/-- Entries put one after another are among those that were given. -/
theorem mem_of_mem_ofList {e : α × β} (h : e ∈ ofList given) : e ∈ given := by
  induction given using List.reverseRecOn with
  | nil => exact h
  | append_singleton given last ih =>
    rw [ofList_concat] at h
    rcases mem_put h with rfl | h
    · exact List.mem_append_right _ (List.mem_singleton_self _)
    · exact List.mem_append_left _ (ih h)

/-- Of entries with one name the last counts. -/
theorem lookup_ofList (given : List (α × β)) (name : α) :
    (ofList given).lookup name = given.reverse.lookup name := by
  induction given using List.reverseRecOn with
  | nil => rfl
  | append_singleton given last ih =>
    rw [ofList_concat, lookup_put, ih, List.reverse_concat, lookup_cons]

/-- Entries with different names are only put in order. -/
theorem ofList_perm (distinct : (given.map Prod.fst).Nodup) : (ofList given).Perm given := by
  induction given using List.reverseRecOn with
  | nil => exact List.Perm.refl _
  | append_singleton given last ih =>
    obtain ⟨n, v⟩ := last
    rw [List.map_append, List.nodup_append] at distinct
    have hperm := ih distinct.1
    have fresh : n ∉ (ofList given).map Prod.fst := by
      rw [(hperm.map Prod.fst).mem_iff]
      exact fun hmem => distinct.2.2 n hmem n (List.mem_singleton_self _) rfl
    rw [ofList_concat]
    exact ((put_perm fresh).trans (hperm.cons (n, v))).trans (List.perm_append_singleton _ _).symm

/-! ### Entries in order -/

variable [LE α] [Std.IsLinearOrder α] [Std.LawfulOrderLT α]

/-- An entry put in its place leaves the names in order. -/
theorem put_isAscending (name : α) (value : β) (h : IsAscending entries) :
    IsAscending (put name value entries) := by
  induction entries with
  | nil => exact List.pairwise_singleton _ _
  | cons first rest ih =>
    obtain ⟨n, v⟩ := first
    obtain ⟨hfirst, hrest⟩ := List.pairwise_cons.mp h
    rw [put]
    split
    · rename_i hlt
      refine List.pairwise_cons.mpr ⟨?_, h⟩
      intro other hother
      rcases List.mem_cons.mp hother with rfl | hother
      · exact hlt
      · exact Std.lt_trans hlt (hfirst other hother)
    · rename_i hle
      split
      · rename_i heq
        subst heq
        exact h
      · rename_i hne
        have hlt : n < name := Std.lt_of_le_of_ne (Std.not_lt.mp hle) (Ne.symm hne)
        refine List.pairwise_cons.mpr ⟨?_, ih hrest⟩
        intro other hother
        obtain ⟨e, he, rfl⟩ := List.mem_map.mp hother
        rcases mem_put he with rfl | he
        · exact hlt
        · exact hfirst _ (List.mem_map_of_mem he)

/-- An entry whose name comes after all others goes to the end. -/
theorem put_last (value : β) (above : ∀ n ∈ entries.map Prod.fst, n < name) :
    put name value entries = entries ++ [(name, value)] := by
  induction entries with
  | nil => rfl
  | cons first rest ih =>
    obtain ⟨n, v⟩ := first
    have hlt : n < name := above n List.mem_cons_self
    have hne : name ≠ n := fun heq => Std.lt_irrefl (heq ▸ hlt)
    rw [put, if_neg (Std.not_lt.mpr (Std.le_of_lt hlt)), if_neg hne,
      ih fun m hm => above m (List.mem_cons_of_mem _ hm)]
    rfl

/-- Entries put one after another are in order, however they were given. -/
theorem ofList_isAscending (given : List (α × β)) : IsAscending (ofList given) := by
  induction given using List.reverseRecOn with
  | nil => exact List.Pairwise.nil
  | append_singleton given last ih =>
    rw [ofList_concat]
    exact put_isAscending last.1 last.2 ih

/-- Entries in order stay as they are. -/
theorem ofList_of_isAscending (h : IsAscending given) : ofList given = given := by
  induction given using List.reverseRecOn with
  | nil => rfl
  | append_singleton given last ih =>
    have hgiven : IsAscending given := by
      rw [IsAscending, List.map_append, List.pairwise_append] at h
      exact h.1
    rw [ofList_concat, ih hgiven, put_last last.2 h.above]

end ProfileGuard.Entries
