/-!
# Tasks that run side by side

Calls, flushes and reads overlap.  Each of them is a task with a number of its own, and what is known
of every task is kept in a total map from those numbers.

* **`TaskId`** — the number of a task.
* **`Tasks`** — something for every task.
* **`Tasks.set`** — the map with one entry changed, pinned down by `Tasks.set_self` and
  `Tasks.set_other`.
-/

namespace ProfileGuard

/-- The number of a task. -/
abbrev TaskId := Nat

/-- Something for every task. -/
abbrev Tasks (α : Type) := TaskId → α

namespace Tasks

variable {α : Type}

/-- The map with the entry of one task changed. -/
def set (tasks : Tasks α) (id : TaskId) (entry : α) : Tasks α :=
  fun other => if other = id then entry else tasks other

@[simp]
theorem set_self (tasks : Tasks α) (id : TaskId) (entry : α) : tasks.set id entry id = entry := by
  simp [set]

theorem set_other (tasks : Tasks α) {id other : TaskId} (entry : α) (h : other ≠ id) :
    tasks.set id entry other = tasks other := by
  simp [set, h]

@[simp]
theorem set_set (tasks : Tasks α) (id : TaskId) (entry other : α) :
    (tasks.set id entry).set id other = tasks.set id other := by
  funext task
  unfold set
  split <;> rfl

/-- Changes of different entries can come in any order. -/
theorem set_comm (tasks : Tasks α) {id other : TaskId} (h : id ≠ other) (entry entry' : α) :
    (tasks.set id entry).set other entry' = (tasks.set other entry').set id entry := by
  funext task
  unfold set
  by_cases hid : task = id
  · rw [if_neg (fun hother => h (hid.symm.trans hother)), if_pos hid, if_pos hid]
  · rw [if_neg hid, if_neg hid]

theorem set_apply (tasks : Tasks α) (id other : TaskId) (entry : α) :
    tasks.set id entry other = if other = id then entry else tasks other := rfl

end Tasks

end ProfileGuard
