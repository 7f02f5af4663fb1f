import Mathlib.Data.Set.Card
import ProfileGuard.Tasks

/-!
# Counting tasks

Some metrics count the tasks that have come to an end of one kind.  A task that does so is one more, in the
metrics and in the set of these tasks.

* **`Tasks.having`** — the tasks whose entries have a property.
* **`Tasks.IsCount`** — a count of 64 bits shows how many tasks there are.
* **`Tasks.IsCount.insert`** — one task more.
-/

namespace ProfileGuard.Tasks

variable {α : Type} {P : α → Prop} {tasks : Tasks α} {id : TaskId} {entry : α}

/-- The tasks whose entries have a property. -/
def having (tasks : Tasks α) (P : α → Prop) : Set TaskId := {id | P (tasks id)}

theorem mem_having : id ∈ tasks.having P ↔ P (tasks id) := Iff.rfl

/-- A task whose entry has the property after a change exactly if it had before changes nothing. -/
theorem having_set_of_iff (h : P entry ↔ P (tasks id)) :
    (tasks.set id entry).having P = tasks.having P := by
  ext task
  rw [mem_having, mem_having, set_apply]
  split
  · rename_i htask
    rw [htask]
    exact h
  · rfl

/-- A task whose entry has the property after a change is among those that have it. -/
theorem having_set_of_pos (h : P entry) : (tasks.set id entry).having P = insert id (tasks.having P) := by
  ext task
  rw [mem_having, set_apply, Set.mem_insert_iff]
  split
  · rename_i htask
    exact iff_of_true h (.inl htask)
  · rename_i htask
    rw [or_iff_right htask, mem_having]

/-- A count of 64 bits shows how many tasks there are; past `2 ^ 64` it starts over. -/
structure IsCount (count : UInt64) (tasks : Set TaskId) : Prop where
  finite : tasks.Finite
  count : count = UInt64.ofNat tasks.ncard

theorem IsCount.empty : IsCount 0 ∅ where
  finite := Set.finite_empty
  count := by
    rw [Set.ncard_empty]
    rfl

/-- One task more. -/
theorem IsCount.insert {count : UInt64} {tasks : Set TaskId} (h : IsCount count tasks)
    (new : id ∉ tasks) : IsCount (count + 1) (insert id tasks) where
  finite := h.finite.insert id
  count := by
    rw [Set.ncard_insert_of_notMem new h.finite, UInt64.ofNat_add, ← h.count]
    rfl

end ProfileGuard.Tasks
