import ProfileGuard.Tasks

/-!
# Locks

A lock is held by one task at a time; tasks that find it held wait in line, first come first served.  A
lock that is given back goes straight to the head of the line.

* **`Lock`** — holder and line.
* **`Lock.request`** / **`Lock.release`** / **`Lock.leave`** — asking for it, giving it back, giving up.
-/

namespace ProfileGuard

/-- Who holds a lock and who waits for it, in order. -/
structure Lock where
  holder : Option TaskId := none
  line : List TaskId := []

namespace Lock

/-- A task asks for the lock: it gets it, or joins the line. -/
def request (id : TaskId) (l : Lock) : Lock :=
  match l.holder with
  | none => { l with holder := some id }
  | some _ => { l with line := l.line ++ [id] }

/-- The lock after its holder gave it back. -/
def release (l : Lock) : Lock :=
  match l.line with
  | [] => ⟨none, []⟩
  | id :: line => ⟨some id, line⟩

/-- The lock after a task no longer wants it, whether it held it or waited for it. -/
def leave (id : TaskId) (l : Lock) : Lock :=
  if l.holder = some id then l.release else { l with line := l.line.erase id }

/-- Whether a task holds the lock. -/
def isHeldBy (l : Lock) (id : TaskId) : Bool := l.holder == some id

end Lock

end ProfileGuard
