/-!
# Counts that stop

* **`raise`** — one more, but never past the largest 32-bit number.
-/

namespace ProfileGuard

/-- One more, but never past the largest 32-bit number. -/
def raise (n : UInt32) : UInt32 := if n + 1 = 0 then n else n + 1

end ProfileGuard
