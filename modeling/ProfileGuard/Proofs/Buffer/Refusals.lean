import ProfileGuard.Proofs.Buffer.Moves
import ProfileGuard.Proofs.Tasks

/-!
# Refused events are counted

A full buffer that could not hand over its content refuses the event of an add, and counts that.  The count
goes up by one exactly where an add ends so, and no operation ends twice.

* **`Buffer.refusals`** — the adds that a full buffer has refused.
* **`Buffer.CountsRefusals`** — the invariant: the metrics show how many adds were refused.
* **`Buffer.CountsRefusals.reject`** — a refusal is one more, in both.
* **`Buffer.CountsRefusals.move`** — every move keeps the invariant.
-/

namespace ProfileGuard.Buffer

/-- The adds that a full buffer has refused. -/
def refusals (b : Buffer) : Set TaskId :=
  {task | ∃ capacity, b.stages task = .finished (.added (.error (.full capacity)))}

/-- How many events the metrics show as refused. -/
def refusedCount (b : Buffer) : UInt64 := b.metrics.dropped.value

/-- The metrics show how many adds were refused. -/
structure CountsRefusals (b : Buffer) : Prop where
  finite : b.refusals.Finite
  count : b.refusedCount = UInt64.ofNat b.refusals.ncard

variable {now : Instant} {b later : Buffer} {id : TaskId}

theorem refusals_eq (b : Buffer) :
    b.refusals = b.stages.having fun stage =>
      ∃ capacity, stage = .finished (.added (.error (.full capacity))) := rfl

theorem mem_refusals {task : TaskId} :
    task ∈ b.refusals ↔ ∃ capacity, b.stages task = .finished (.added (.error (.full capacity))) :=
  Iff.rfl

/-- Nothing that leaves the refused adds as they were touches their number. -/
theorem CountsRefusals.congr (h : b.CountsRefusals) (refusals : later.refusals = b.refusals)
    (count : later.refusedCount = b.refusedCount) : later.CountsRefusals :=
  ⟨refusals ▸ h.finite, by rw [count, refusals, h.count]⟩

/-- An operation that goes to a stage other than a refusal was none before, so it changes nothing. -/
theorem refusals_set {stage : Stage} (stages : later.stages = b.stages.set id stage)
    (before : id ∉ b.refusals)
    (after : ∀ capacity, stage ≠ .finished (.added (.error (.full capacity)))) :
    later.refusals = b.refusals := by
  rw [refusals_eq, refusals_eq, stages]
  refine Tasks.having_set_of_iff (iff_of_false ?_ before)
  rintro ⟨capacity, h⟩
  exact after capacity h

/-- An operation that has not ended is no refusal. -/
theorem not_mem_refusals (active : ∀ reply, b.stages id ≠ .finished reply) : id ∉ b.refusals := by
  rintro ⟨capacity, h⟩
  exact active _ h

/-- An add under way that is refused is one more. -/
theorem reject_refusals (b : Buffer) (id : TaskId) :
    (b.reject id).refusals = insert id b.refusals := by
  rw [refusals_eq, refusals_eq]
  exact Tasks.having_set_of_pos ⟨b.settings.capacity, rfl⟩

theorem CountsRefusals.reject (h : b.CountsRefusals) (active : ∀ reply, b.stages id ≠ .finished reply) :
    (b.reject id).CountsRefusals := by
  have hbefore : Tasks.IsCount b.refusedCount b.refusals := ⟨h.finite, h.count⟩
  have hafter := hbefore.insert (not_mem_refusals active)
  rw [← reject_refusals] at hafter
  exact ⟨hafter.finite, hafter.count⟩

theorem CountsRefusals.appendOrReject (h : b.CountsRefusals)
    (active : ∀ reply, b.stages id ≠ .finished reply) (event : Event) :
    (b.appendOrReject id event).CountsRefusals := by
  rcases appendOrReject_cases b id event with hcase | hcase
  · rw [hcase]
    exact h.congr (refusals_set rfl (not_mem_refusals active) (by simp)) rfl
  · rw [hcase]
    exact h.reject active

theorem goOn_refusedCount (b : Buffer) (id : TaskId) (d : Delivery) :
    (b.goOn id d).refusedCount = b.refusedCount := by
  unfold goOn
  split <;> rfl

/-- Every move keeps the count right. -/
theorem CountsRefusals.move (h : b.CountsRefusals) (move : Move now b id later) :
    later.CountsRefusals := by
  have active : ∀ {stage}, b.stages id = stage → (∀ reply, stage ≠ .finished reply) →
      ∀ reply, b.stages id ≠ .finished reply := by
    intro stage hstage hactive reply
    rw [hstage]
    exact hactive reply
  cases move with
  | stay => exact h
  | put event stage => exact h.appendOrReject (active stage (by simp)) event
  | notStored event expires stage => exact h.appendOrReject (active stage (by simp)) event
  | stored event expires stage =>
    have hspilled : b.spilled.CountsRefusals := h.congr rfl rfl
    exact hspilled.appendOrReject (active stage (by simp)) event
  | add event stage | view stage | flush limit stage | noTransport stage | known event stage
  | spill event stage | read limit stage | late d stage | close d stage | viewed stage =>
    exact h.congr (refusals_set rfl (not_mem_refusals (active stage (by simp))) (by simp)) rfl
  | snapshot limit stage =>
    have hcount : (b.snapshot now id limit).refusedCount = b.refusedCount := by
      unfold Buffer.snapshot
      dsimp only
      split <;> rfl
    have hbefore := not_mem_refusals (active stage (by simp))
    rcases snapshot_stage b now id limit with ⟨_, hstages⟩ | ⟨_, _, _, hstages⟩ | hstages
    · exact h.congr (refusals_set hstages hbefore (by simp)) hcount
    · exact h.congr (refusals_set hstages hbefore (by simp)) hcount
    · exact h.congr (refusals_set hstages hbefore (by simp)) hcount
  | sent d event rest stage =>
    obtain ⟨own, hown, hstages⟩ := goOn_stage { b with delivered := b.delivered ++ [event] } id
      (d.after event rest (.ok ()))
    exact h.congr (refusals_set hstages (not_mem_refusals (active stage (by simp)))
      (by rcases hown with rfl | rfl <;> simp)) (goOn_refusedCount _ _ _)
  | notSent d event rest error stage =>
    obtain ⟨own, hown, hstages⟩ := goOn_stage b id (d.after event rest (.error error))
    exact h.congr (refusals_set hstages (not_mem_refusals (active stage (by simp)))
      (by rcases hown with rfl | rfl <;> simp)) (goOn_refusedCount _ _ _)
  | drop active =>
    rcases abort_stage b id with hsame | hstages
    · rw [hsame]
      exact h
    · have hcount : (b.abort id).refusedCount = b.refusedCount := by
        unfold Buffer.abort
        split <;> rfl
      exact h.congr (refusals_set hstages (not_mem_refusals active) (by simp)) hcount

theorem start_countsRefusals (settings : Settings) (hasSink hasTransport : Bool) :
    (start settings hasSink hasTransport).CountsRefusals := by
  have hnone : (start settings hasSink hasTransport).refusals = ∅ := by
    refine Set.eq_empty_of_forall_notMem ?_
    rintro task ⟨capacity, h⟩
    cases h
  refine ⟨by rw [hnone]; exact Set.finite_empty, ?_⟩
  rw [hnone, Set.ncard_empty]
  rfl

end ProfileGuard.Buffer
