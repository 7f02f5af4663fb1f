import ProfileGuard.Proofs.Breaker.Recovery

/-!
# A breaker that counts no failures

A breaker compares the share of failures with a bound that is above zero.  Where no failure was counted, the
share is zero, or no number at all if the count of requests could not be turned into one; neither reaches the
bound.  So a closed circuit without failures stays closed as long as only successes are reported, however the
windows of the breaker begin and end meanwhile.

* **`Breaker.IsNull`** — a floating-point number that is zero or none at all.
* **`Breaker.isTripped_eq_false`** — without failures nothing trips.
* **`Breaker.IsUntroubled`** — a closed circuit without failures, with what keeps it so.
-/

namespace ProfileGuard

namespace Breaker

open Float.Model

/-! ### The share of failures -/

/-- A floating-point number that is zero, or none at all. -/
def IsNull (x : UnpackedFloat) : Prop := x = .notANumber ∨ ∃ sign, x = .zero sign

theorem IsNull.repacked {x : UnpackedFloat} (h : IsNull x) : IsNull (pack x).unpack := by
  rcases h with rfl | ⟨sign, rfl⟩
  · exact .inl rfl
  · cases sign with
    | positive => exact .inr ⟨.positive, rfl⟩
    | negative => exact .inr ⟨.negative, rfl⟩

/-- Zero divided by a number is zero, or no number. -/
theorem IsNull.div {x : UnpackedFloat} (h : IsNull x) (spec : Format) (y : UnpackedFloat) :
    IsNull (x.div spec y) := by
  rcases h with rfl | ⟨sign, rfl⟩
  · exact .inl rfl
  · cases y with
    | infinity other | finite other => exact .inr ⟨_, rfl⟩
    | notANumber | zero other => exact .inl rfl

/-- Zero does not reach a bound above zero, and what is no number reaches none. -/
theorem IsNull.le_eq_false {x bound : UnpackedFloat} (h : IsNull x)
    (positive : UnpackedFloat.lt (.zero .positive) bound = true) : bound.le x = false := by
  rcases h with rfl | ⟨sign, rfl⟩
  · cases bound with
    | infinity s => cases s <;> rfl
    | _ => rfl
  · -- a bound above zero has a positive sign
    cases bound with
    | infinity s =>
      cases s with
      | positive => rfl
      | negative => exact absurd positive Bool.false_ne_true
    | finite s mantissa exponent =>
      cases s with
      | positive => rfl
      | negative => exact absurd positive Bool.false_ne_true
    | notANumber => rfl
    | zero s => exact absurd positive Bool.false_ne_true

theorem lt_iff_unpack (x y : Float) : x < y ↔ x.toModel.unpack.lt y.toModel.unpack = true := by
  show decide (x.toModel < y.toModel) = true ↔ _
  rw [decide_eq_true_iff]
  exact Iff.rfl

theorem le_iff_unpack (x y : Float) : x ≤ y ↔ x.toModel.unpack.le y.toModel.unpack = true := by
  show decide (x.toModel ≤ y.toModel) = true ↔ _
  rw [decide_eq_true_iff]
  exact Iff.rfl

/-- Without failures their share is zero, or no number. -/
theorem Counts.failureRatio_isNull {c : Counts} (none : c.failures = 0) :
    IsNull c.failureRatio.toModel.unpack := by
  unfold Counts.failureRatio
  split
  · exact .inr ⟨.positive, rfl⟩
  · rw [none]
    have hzero : IsNull (UInt32.toFloat 0).toModel.unpack := .inr ⟨.positive, rfl⟩
    exact (hzero.div Format.binary64 c.requests.toFloat.toModel.unpack).repacked

/-- **Without failures nothing trips.** -/
theorem isTripped_eq_false {s : Settings} (valid : s.validate = .ok ()) {c : Counts}
    (none : c.failures = 0) : Circuit.isTripped s c = false := by
  obtain ⟨_, _, _, _, positive, _⟩ := Settings.validate_eq_ok.mp valid
  have hle := (Counts.failureRatio_isNull none).le_eq_false
    ((lt_iff_unpack 0 s.tripRatio.value).mp positive)
  have hge : ¬ c.failureRatio ≥ s.tripRatio.value := by
    rw [ge_iff_le, le_iff_unpack, hle]
    exact Bool.false_ne_true
  simp [Circuit.isTripped, hge]

/-! ### A closed circuit without failures -/

/-- A closed circuit that has counted no failure. -/
structure Circuit.IsUntroubled (c : Circuit) : Prop where
  closed : c.phase = .closed
  none : c.counts.failures = 0

variable {s : Settings} {c : Circuit} {now : Instant} {generation : UInt64}

theorem Circuit.start_isUntroubled (s : Settings) (now : Instant) :
    (Circuit.start s now).IsUntroubled := ⟨rfl, rfl⟩

theorem Circuit.IsUntroubled.refresh (h : c.IsUntroubled) (s : Settings) (now : Instant) :
    (c.refresh s now).circuit.IsUntroubled := by
  rcases Circuit.refresh_cases s now c with ⟨heq, _⟩ | ⟨heq, _, _⟩ | ⟨_, hopened, _⟩
  · rw [heq]
    exact h
  · rw [heq]
    exact ⟨h.closed, rfl⟩
  · rw [h.closed] at hopened
    cases hopened

/-- A success leaves it closed. -/
theorem Circuit.IsUntroubled.succeed (h : c.IsUntroubled) (valid : s.validate = .ok ())
    (now : Instant) : (c.count s now true).circuit.IsUntroubled := by
  have hnone : (c.counts.settled true).failures = 0 := h.none
  simp only [Circuit.count, h.closed, isTripped_eq_false valid hnone]
  exact ⟨rfl, hnone⟩

/-- What was reported to a breaker so far has left its circuit untroubled. -/
structure IsUntroubled (b : Breaker) : Prop where
  valid : b.settings.validate = .ok ()
  circuit : b.circuit.IsUntroubled

variable {b : Breaker}

/-- Every request is let through. -/
theorem IsUntroubled.acquire (h : b.IsUntroubled) (now : Instant) :
    (b.acquire now).1.IsUntroubled ∧ ∃ generation, (b.acquire now).2 = .ok generation := by
  let t : Traffic := ⟨b, fun _ => .idle⟩
  obtain ⟨hcircuit, hsettings, hanswer⟩ := acquire_free t now (found_free_of_closed h.circuit.closed now)
  have hfound : (t.found now).IsUntroubled := h.circuit.refresh b.settings now
  refine ⟨⟨?_, ?_⟩, _, hanswer⟩
  · rw [hsettings]
    exact h.valid
  · rw [hcircuit]
    exact ⟨hfound.closed, hfound.none⟩

/-- A success leaves it untroubled, whichever window it belongs to. -/
theorem IsUntroubled.record (h : b.IsUntroubled) (now : Instant) (generation : UInt64) :
    (b.record now generation true).IsUntroubled := by
  refine ⟨h.valid, ?_⟩
  have hfound : (Traffic.found ⟨b, fun _ => .idle⟩ now).IsUntroubled := h.circuit.refresh b.settings now
  rw [record_circuit ⟨b, fun _ => .idle⟩ now]
  split
  · exact hfound.succeed h.valid now
  · exact hfound

/-- Looking at it changes nothing of that. -/
theorem IsUntroubled.poll (h : b.IsUntroubled) (now : Instant) : (b.poll now).IsUntroubled :=
  ⟨h.valid, h.circuit.refresh b.settings now⟩

end Breaker

end ProfileGuard
