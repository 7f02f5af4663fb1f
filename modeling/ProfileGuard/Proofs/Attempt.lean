/-!
# Steps that may fail

* **`Attempt.bind_eq_ok_iff`** — two steps one after the other succeed exactly if each of them does.
* **`Attempt.bind_eq_error_iff`** — and they fail as the first one of them does that fails.
-/

namespace ProfileGuard.Attempt

variable {ε α β : Type} {x : Except ε α} {f : α → Except ε β}

/-- Two steps one after the other succeed exactly if each of them does. -/
theorem bind_eq_ok_iff {b : β} : x >>= f = .ok b ↔ ∃ a, x = .ok a ∧ f a = .ok b := by
  constructor
  · intro h
    cases x with
    | error error => cases h
    | ok a => exact ⟨a, rfl, h⟩
  · rintro ⟨a, rfl, h⟩
    exact h

/-- Two steps one after the other fail as the first one of them does that fails. -/
theorem bind_eq_error_iff {e : ε} : x >>= f = .error e ↔ x = .error e ∨ ∃ a, x = .ok a ∧ f a = .error e := by
  constructor
  · intro h
    cases x with
    | error error =>
      cases h
      exact .inl rfl
    | ok a => exact .inr ⟨a, rfl, h⟩
  · rintro (rfl | ⟨a, rfl, h⟩)
    · rfl
    · exact h

end ProfileGuard.Attempt
