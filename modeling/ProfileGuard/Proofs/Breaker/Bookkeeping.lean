import Mathlib.Data.List.Nodup
import ProfileGuard.Proofs.Breaker.Moves

/-!
# The books of a breaker

The counts of a circuit, held against the history of the calls: what is counted is what happened to the
calls of the present generation, each of them once, and nothing else.

* **`Breaker.Counts.Agree`** — counts that agree with a list of calls and their outcomes.
* **`Breaker.Ledger`** — how a circuit and the stages of its calls agree with a log.
* **`Breaker.Ledger.step`** / **`Breaker.Ledger.run`** — every move keeps the agreement, and every run.
* **`Breaker.bookkeeping_isExact`** — what the counts say after any run.
-/

namespace ProfileGuard.Breaker

/-! ### Counts that agree with outcomes -/

section Trailing

variable {success other : Bool} {outcomes : List Bool}

theorem trailing_le : trailing success outcomes ≤ outcomes.length := by
  have h := (List.takeWhile_prefix (· == success) (l := outcomes.reverse)).length_le
  rwa [List.length_reverse] at h

theorem trailing_concat_self :
    trailing success (outcomes ++ [success]) = trailing success outcomes + 1 := by
  simp [trailing]

theorem trailing_concat_ne (h : other ≠ success) :
    trailing success (outcomes ++ [other]) = 0 := by
  simp [trailing, h]

end Trailing

/-- Counts that agree with the calls let through and with the outcomes of those that have ended. -/
structure Counts.Agree (counts : Counts) (calls : List TaskId) (outcomes : List Bool) : Prop where
  requests : counts.requests.toNat = calls.length
  successes : counts.successes.toNat = outcomes.count true
  failures : counts.failures.toNat = outcomes.count false
  successRun : counts.successRun.toNat = trailing true outcomes
  failureRun : counts.failureRun.toNat = trailing false outcomes

namespace Counts.Agree

variable {counts : Counts} {calls : List TaskId} {outcomes : List Bool}

theorem fresh : ({} : Counts).Agree [] [] := ⟨rfl, rfl, rfl, rfl, rfl⟩

theorem admitted (h : counts.Agree calls outcomes) (id : TaskId)
    (few : calls.length + 1 < 2 ^ 32) : counts.admitted.Agree (calls ++ [id]) outcomes := by
  refine ⟨?_, h.successes, h.failures, h.successRun, h.failureRun⟩
  show (raise counts.requests).toNat = (calls ++ [id]).length
  rw [toNat_raise (by rw [h.requests]; exact few), h.requests, List.length_append,
    List.length_singleton]

theorem settled (h : counts.Agree calls outcomes) (success : Bool)
    (few : outcomes.length + 1 < 2 ^ 32) :
    (counts.settled success).Agree calls (outcomes ++ [success]) := by
  have hcount : ∀ b, outcomes.count b + 1 < 2 ^ 32 := fun b =>
    lt_of_le_of_lt (Nat.succ_le_succ List.count_le_length) few
  have hrun : ∀ b, trailing b outcomes + 1 < 2 ^ 32 := fun b =>
    lt_of_le_of_lt (Nat.succ_le_succ trailing_le) few
  cases success with
  | true =>
    refine ⟨h.requests, ?_, ?_, ?_, ?_⟩
    · show (raise counts.successes).toNat = _
      rw [toNat_raise (by rw [h.successes]; exact hcount true), h.successes]
      simp
    · show counts.failures.toNat = _
      simp [h.failures]
    · show (raise counts.successRun).toNat = _
      rw [toNat_raise (by rw [h.successRun]; exact hrun true), h.successRun, trailing_concat_self]
    · rw [trailing_concat_ne (by simp)]
      rfl
  | false =>
    refine ⟨h.requests, ?_, ?_, ?_, ?_⟩
    · show counts.successes.toNat = _
      simp [h.successes]
    · show (raise counts.failures).toNat = _
      rw [toNat_raise (by rw [h.failures]; exact hcount false), h.failures]
      simp
    · rw [trailing_concat_ne (by simp)]
      rfl
    · show (raise counts.failureRun).toNat = _
      rw [toNat_raise (by rw [h.failureRun]; exact hrun false), h.failureRun, trailing_concat_self]

theorem calls_eq_nil (h : ({} : Counts).Agree calls outcomes) : calls = [] :=
  List.eq_nil_of_length_eq_zero h.requests.symm

end Counts.Agree

/-! ### The ledger -/

/-- How a circuit and the stages of its calls agree with the log of a run that has begun some new
generations. -/
structure Ledger (s : Settings) (c : Circuit) (stages : Tasks Stage) (log : List Note) (begun : Nat)
    (latest : Instant) : Prop where
  /-- Generations are numbered from one. -/
  number : c.generation.toNat = begun + 1
  /-- No call belongs to a later generation. -/
  known : ∀ {g id}, id ∈ admittedIn g log → g.toNat ≤ c.generation.toNat
  told : ∀ id, (stages id).IsToldBy log id
  agree : c.counts.Agree (admittedIn c.generation log)
    (outcomesOf (admittedIn c.generation log) log)
  past : ∀ note ∈ log, note.time ≤ latest
  /-- A closed circuit counts calls of its window only; one without an end has a window that lasts longer
  than the clock. -/
  window : c.phase = .closed → s.window ≠ 0 → ∃ first ≤ latest,
    (c.expiry = some (first + s.window) ∨ Instant.last < first + s.window) ∧
      ∀ note ∈ log, note.id ∈ admittedIn c.generation log → first ≤ note.time

namespace Ledger

variable {s : Settings} {c : Circuit} {stages : Tasks Stage} {log : List Note} {begun : Nat}
  {latest now : Instant}

theorem nodup (h : Ledger s c stages log begun latest) (g : UInt64) : (admittedIn g log).Nodup :=
  List.nodup_iff_count_le_one.mpr fun id => count_admittedIn_le.trans (h.told id).admits_le

/-- A call that was let through has ended, once, or is in flight. -/
theorem once (h : Ledger s c stages log begun latest) {g : UInt64} {id : TaskId}
    (hid : id ∈ admittedIn g log) :
    log.countP (Note.settles id) + (if (stages id).isInFlight then 1 else 0) = 1 := by
  have hone : log.countP (Note.admits id) = 1 := by
    have hle := (h.told id).admits_le
    have hne : log.countP (Note.admits id) ≠ 0 := fun h0 => not_mem_admittedIn h0 hid
    omega
  rw [(h.told id).settles_add, hone]

/-- The calls of the present generation have ended or are in flight. -/
theorem balance {t : Traffic} (h : Ledger s c t.stages log begun latest) (g : UInt64) :
    (admittedIn g log).length = (outcomesOf (admittedIn g log) log).length
      + ((admittedIn g log).filter t.isInFlight).length :=
  length_eq_outcomes_add_inFlight (h.nodup g) fun _ hid => h.once hid

/-- A call in flight belongs to the present generation exactly if it carries its number. -/
theorem mem_iff_of_inFlight (h : Ledger s c stages log begun latest) {id : TaskId} {flight : Flight}
    (inFlight : stages id = .inFlight flight) (g : UInt64) :
    id ∈ admittedIn g log ↔ g = flight.generation := by
  have htold := h.told id
  rw [inFlight] at htold
  exact htold.2.2 g

theorem later (h : Ledger s c stages log begun latest) (hle : latest ≤ now) :
    Ledger s c stages log begun now := by
  refine ⟨h.number, h.known, h.told, h.agree, fun note hnote => (h.past note hnote).trans hle, ?_⟩
  intro hphase hwindow
  obtain ⟨first, hfirst, hexpiry, hnotes⟩ := h.window hphase hwindow
  exact ⟨first, hfirst.trans hle, hexpiry, hnotes⟩

/-- A new generation begins with nothing. -/
theorem renew (h : Ledger s c stages log begun now) (few : begun + 2 < 2 ^ 64) {phase : Phase}
    (since : Instant) {expiry : Option Instant}
    (window : phase = .closed → s.window ≠ 0 →
      expiry = some (now + s.window) ∨ Instant.last < now + s.window) :
    Ledger s (Circuit.renew expiry { c with phase, since }) stages log (begun + 1) now := by
  have hnumber : (c.generation + 1).toNat = begun + 1 + 1 := by
    rw [UInt64.toNat_add, h.number]
    exact Nat.mod_eq_of_lt few
  have hnone : admittedIn (c.generation + 1) log = [] := by
    refine List.eq_nil_iff_forall_not_mem.mpr fun id hid => ?_
    have hle := h.known hid
    rw [hnumber, h.number] at hle
    omega
  refine ⟨hnumber, ?_, h.told, ?_, h.past, ?_⟩
  · intro g id hid
    show g.toNat ≤ (c.generation + 1).toNat
    have hle := h.known hid
    rw [h.number] at hle
    omega
  · show ({} : Counts).Agree (admittedIn (c.generation + 1) log)
      (outcomesOf (admittedIn (c.generation + 1) log) log)
    rw [hnone, outcomesOf_nil]
    exact .fresh
  · intro hphase hwindow
    refine ⟨now, Nat.le_refl _, window hphase hwindow, ?_⟩
    intro note _ hmem
    have hmem : note.id ∈ admittedIn (c.generation + 1) log := hmem
    rw [hnone] at hmem
    cases hmem

/-- A call passes: it is let through in the present generation. -/
theorem pass (h : Ledger s c stages log begun now) {id : TaskId} (idle : stages id = .idle)
    (limit : Option Duration)
    (few : (admittedIn c.generation (log ++ [.admitted now id c.generation])).length < 2 ^ 32) :
    Ledger s { c with counts := c.counts.admitted }
      (stages.set id (.inFlight ⟨c.generation, now, limit⟩))
      (log ++ [.admitted now id c.generation]) begun now := by
  have htold : Stage.idle.IsToldBy log id := idle ▸ h.told id
  have hmine : admittedIn c.generation (log ++ [.admitted now id c.generation])
      = admittedIn c.generation log ++ [id] := by
    rw [admittedIn_append, admittedIn_admitted, if_pos rfl]
  refine ⟨h.number, ?_, ?_, ?_, ?_, ?_⟩
  · intro g other hmem
    rw [admittedIn_append, admittedIn_admitted] at hmem
    by_cases hg : c.generation = g
    · exact le_of_eq (congrArg UInt64.toNat hg.symm)
    · rw [if_neg hg, List.append_nil] at hmem
      exact h.known hmem
  · exact told_set h.told (by simp [Note.id]) (htold.admitted now ⟨c.generation, now, limit⟩)
  · show c.counts.admitted.Agree
      (admittedIn c.generation (log ++ [.admitted now id c.generation])) _
    rw [hmine, outcomesOf_append, outcomesOf_admitted, List.append_nil, outcomesOf_concat htold.2]
    rw [hmine, List.length_append, List.length_singleton] at few
    exact h.agree.admitted id few
  · intro note hnote
    rcases List.mem_append.mp hnote with hold | hnew
    · exact h.past note hold
    · rw [List.mem_singleton.mp hnew]
      exact Nat.le_refl _
  · intro hphase hwindow
    obtain ⟨first, hfirst, hexpiry, hnotes⟩ := h.window hphase hwindow
    refine ⟨first, hfirst, hexpiry, fun note hnote hmem => ?_⟩
    rcases List.mem_append.mp hnote with hold | hnew
    · -- an idle call has left no note, so this one is about another call
      have hne := htold.id_ne hold
      have hmem : note.id ∈ admittedIn c.generation (log ++ [.admitted now id c.generation]) := hmem
      rw [hmine, List.mem_append, List.mem_singleton] at hmem
      exact hnotes note hold (hmem.resolve_right hne)
    · rw [List.mem_singleton.mp hnew]
      exact hfirst

theorem refuse (h : Ledger s c stages log begun now) {id : TaskId} (idle : stages id = .idle)
    (result : Except (CallError Failure) Unit) :
    Ledger s c (stages.set id (.finished result)) log begun now := by
  refine ⟨h.number, h.known, fun other => ?_, h.agree, h.past, h.window⟩
  have htold : Stage.idle.IsToldBy log id := idle ▸ h.told id
  have hown : (Stage.finished result).IsToldBy (log ++ []) id := by
    rw [List.append_nil]
    exact htold.finished result
  have hset := told_set h.told (by simp) hown other
  rwa [List.append_nil] at hset

/-- A call in flight ends; whether its outcome is counted depends on its generation. -/
theorem settle (h : Ledger s c stages log begun now) {id : TaskId} {flight : Flight}
    {stage : Stage} {success : Bool} (inFlight : stages id = .inFlight flight)
    (ended : stage.outcome? = some success) {counts : Counts}
    (agree : counts.Agree (admittedIn c.generation log)
      (outcomesOf (admittedIn c.generation log) log
        ++ if id ∈ admittedIn c.generation log then [success] else [])) :
    Ledger s { c with counts } (stages.set id stage) (log ++ [.settled now id success]) begun now := by
  have htold : (Stage.inFlight flight).IsToldBy log id := inFlight ▸ h.told id
  have hmine : ∀ g, admittedIn g (log ++ [.settled now id success]) = admittedIn g log := by
    intro g
    rw [admittedIn_append, admittedIn_settled, List.append_nil]
  refine ⟨h.number, ?_, ?_, ?_, ?_, ?_⟩
  · intro g other hmem
    rw [hmine] at hmem
    exact h.known hmem
  · exact told_set h.told (by simp [Note.id]) (htold.settled now ended)
  · show counts.Agree (admittedIn c.generation (log ++ [.settled now id success])) _
    rw [hmine, outcomesOf_append, outcomesOf_settled]
    exact agree
  · intro note hnote
    rcases List.mem_append.mp hnote with hold | hnew
    · exact h.past note hold
    · rw [List.mem_singleton.mp hnew]
      exact Nat.le_refl _
  · intro hphase hwindow
    obtain ⟨first, hfirst, hexpiry, hnotes⟩ := h.window hphase hwindow
    refine ⟨first, hfirst, hexpiry, fun note hnote hmem => ?_⟩
    rcases List.mem_append.mp hnote with hold | hnew
    · exact hnotes note hold (by rw [hmine] at hmem; exact hmem)
    · rw [List.mem_singleton.mp hnew]
      exact hfirst

theorem refresh (h : Ledger s c stages log begun latest) (hle : latest ≤ now)
    (few : begun + (if (c.refresh s now).circuit.generation = c.generation then 0 else 1) + 1
      < 2 ^ 64) :
    Ledger s (c.refresh s now).circuit stages log
      (begun + if (c.refresh s now).circuit.generation = c.generation then 0 else 1) now := by
  have hne := (generation_add_one_ne c.generation).1
  rcases Circuit.refresh_cases s now c with ⟨heq, _⟩ | ⟨heq, _, _⟩ | ⟨heq, _, _⟩
  · rw [heq, if_pos rfl]
    exact h.later hle
  · have hgeneration : (c.refresh s now).circuit.generation ≠ c.generation := by
      rw [heq]
      exact hne
    rw [if_neg hgeneration] at few ⊢
    rw [heq]
    exact (h.later hle).renew few c.since fun _ hwindow => .inl (if_neg hwindow)
  · have hgeneration : (c.refresh s now).circuit.generation ≠ c.generation := by
      rw [heq]
      exact hne
    rw [if_neg hgeneration] at few ⊢
    rw [heq]
    exact (h.later hle).renew few now fun hclosed => by cases hclosed

end Ledger

/-! ### Moves keep the books -/

/-- The circuit of a breaker and the stages of its calls agree with a log. -/
def Traffic.HasLedger (t : Traffic) (log : List Note) (begun : Nat) (latest : Instant) : Prop :=
  Ledger t.breaker.settings t.breaker.circuit t.stages log begun latest

namespace Traffic.HasLedger

variable {t later : Traffic} {log notes : List Note} {begun : Nat} {latest now : Instant}
  {id : TaskId} {flight : Flight} {success : Bool}

/-- An outcome of the generation that is found comes before that generation has ended by itself. -/
theorem found_same (h : t.HasLedger log begun latest) (inFlight : t.stages id = .inFlight flight)
    (current : flight.generation = (t.found now).generation)
    (few : begun + (if (t.breaker.record now flight.generation success).circuit.generation
      = t.breaker.circuit.generation then 0 else 1) + 1 < 2 ^ 64) :
    t.found now = t.breaker.circuit := by
  rcases Circuit.refresh_generation t.breaker.settings now t.breaker.circuit with hsame | hnext
  · exact hsame
  · exfalso
    have hfound : (t.found now).generation = t.breaker.circuit.generation + 1 := hnext
    obtain ⟨hone, htwo⟩ := generation_add_one_ne t.breaker.circuit.generation
    have hne : (t.breaker.record now flight.generation success).circuit.generation
        ≠ t.breaker.circuit.generation := by
      rcases record_generation t now flight.generation success with h' | h' <;> rw [h', hfound]
      · exact hone
      · exact htwo
    rw [if_neg hne] at few
    have hknown := h.known ((h.mem_iff_of_inFlight inFlight flight.generation).mpr rfl)
    have hnumber := h.number
    rw [current, hfound, UInt64.toNat_add, hnumber] at hknown
    have hmod : (begun + 1 + (1 : UInt64).toNat) % 2 ^ 64 = begun + 2 := Nat.mod_eq_of_lt few
    omega

/-- While a call is in flight, fewer calls have ended than were let through. -/
theorem length_outcomesOf_lt (h : t.HasLedger log begun latest)
    (inFlight : t.stages id = .inFlight flight) {g : UInt64} (hmem : id ∈ admittedIn g log) :
    (outcomesOf (admittedIn g log) log).length < (admittedIn g log).length := by
  have hflight : t.isInFlight id = true := by
    rw [Traffic.isInFlight, inFlight]
    rfl
  have hpos := List.length_pos_of_mem (List.mem_filter.mpr ⟨hmem, hflight⟩)
  have hbalance := Ledger.balance h g
  omega

/-- **Every move keeps the books.** -/
theorem step (h : t.HasLedger log begun latest) (blank : BlankWhileOpened t)
    (move : Move now t notes later) (hle : latest ≤ now)
    (fewGenerations : begun + (if later.breaker.circuit.generation
      = t.breaker.circuit.generation then 0 else 1) + 1 < 2 ^ 64)
    (fewAdmissions : ∀ g, (admittedIn g (log ++ notes)).length < 2 ^ 32) :
    later.HasLedger (log ++ notes) (begun + if later.breaker.circuit.generation
      = t.breaker.circuit.generation then 0 else 1) now := by
  cases move with
  | stay =>
    rw [if_pos rfl, List.append_nil]
    exact h.later hle
  | look =>
    rw [List.append_nil]
    exact h.refresh hle fewGenerations
  | refuse id refusal idle refused =>
    rw [List.append_nil]
    exact (h.refresh hle fewGenerations).refuse idle _
  | pass id limit idle free =>
    obtain ⟨hcircuit, hsettings, _⟩ := acquire_free t now free
    have hgeneration : (t.breaker.acquire now).1.circuit.generation = (t.found now).generation := by
      rw [hcircuit]
    rw [HasLedger, hsettings, hcircuit]
    rw [hgeneration] at fewGenerations
    exact (h.refresh hle fewGenerations).pass idle limit (fewAdmissions _)
  | settle id flight success stage inFlight ended =>
    have hrecord := record_cases t now flight.generation success
    change begun + (if (t.breaker.record now flight.generation success).circuit.generation
      = t.breaker.circuit.generation then 0 else 1) + 1 < 2 ^ 64 at fewGenerations
    show Ledger t.breaker.settings (t.breaker.record now flight.generation success).circuit
      (t.stages.set id stage) (log ++ [.settled now id success])
      (begun + if (t.breaker.record now flight.generation success).circuit.generation
        = t.breaker.circuit.generation then 0 else 1) now
    rcases hrecord with ⟨hcircuit, hstale⟩ | ⟨hcurrent, hphase, hcounted⟩
    · rw [hcircuit] at fewGenerations ⊢
      have hfound : Ledger t.breaker.settings (t.found now) t.stages log _ now :=
        h.refresh hle fewGenerations
      have hnot : id ∉ admittedIn (t.found now).generation log := by
        rcases hstale with hne | hopened
        · rw [hfound.mem_iff_of_inFlight inFlight]
          exact hne.symm
        · obtain ⟨heq, hphase⟩ := found_opened hopened
          have hagree := hfound.agree
          rw [heq, blank hphase] at hagree
          rw [heq, hagree.calls_eq_nil]
          exact List.not_mem_nil
      have hagree : (t.found now).counts.Agree (admittedIn (t.found now).generation log)
          (outcomesOf (admittedIn (t.found now).generation log) log
            ++ if id ∈ admittedIn (t.found now).generation log then [success] else []) := by
        rw [if_neg hnot, List.append_nil]
        exact hfound.agree
      exact hfound.settle inFlight ended hagree
    · have hsame := h.found_same inFlight hcurrent fewGenerations
      rw [hsame] at hcurrent hcounted
      have hmem := (h.mem_iff_of_inFlight inFlight t.breaker.circuit.generation).mpr hcurrent.symm
      have hfew := h.length_outcomesOf_lt inFlight hmem
      have hbound := fewAdmissions t.breaker.circuit.generation
      rw [admittedIn_append, admittedIn_settled, List.append_nil] at hbound
      have hagree : (t.breaker.circuit.counts.settled success).Agree
          (admittedIn t.breaker.circuit.generation log)
          (outcomesOf (admittedIn t.breaker.circuit.generation log) log
            ++ if id ∈ admittedIn t.breaker.circuit.generation log then [success] else []) := by
        rw [if_pos hmem]
        exact h.agree.settled success (by omega)
      have hsettled := (h.later hle).settle inFlight ended hagree
      rcases hcounted with hcircuit | ⟨phase, _, _, hcircuit⟩
      · rw [hcircuit, if_pos rfl]
        exact hsettled
      · have hne : (t.breaker.record now flight.generation success).circuit.generation
            ≠ t.breaker.circuit.generation := by
          rw [hcircuit]
          exact (generation_add_one_ne _).1
        rw [if_neg hne] at fewGenerations ⊢
        rw [hcircuit]
        refine hsettled.renew fewGenerations now fun hclosed hwindow => ?_
        rw [hclosed]
        exact Circuit.expiryIn?_closed hwindow _

/-- **Every run keeps the books**, up to any of its steps. -/
theorem run (h : t.HasLedger log begun latest) (blank : BlankWhileOpened t)
    {steps rest : List (Instant × Event)} (inOrder : InOrder latest (steps ++ rest))
    (fewGenerations : begun + t.generationsBegun steps + 1 < 2 ^ 64)
    (fewAdmissions : ∀ g, (admittedIn g (log ++ t.log steps)).length < 2 ^ 32) :
    ∃ last, InOrder last rest ∧
      (t.run steps).HasLedger (log ++ t.log steps) (begun + t.generationsBegun steps) last := by
  induction steps generalizing t log begun latest with
  | nil =>
    refine ⟨latest, inOrder, ?_⟩
    rw [Traffic.log, List.append_nil]
    exact h
  | cons s steps ih =>
    obtain ⟨hle, hrest⟩ := inOrder_cons inOrder
    rw [Traffic.generationsBegun, ← Nat.add_assoc] at fewGenerations ⊢
    rw [Traffic.log, ← List.append_assoc] at fewAdmissions ⊢
    have move := step_move s.1 t s.2
    have hfew : ∀ g, (admittedIn g (log ++ t.noted s.1 s.2)).length < 2 ^ 32 := by
      intro g
      have hall := fewAdmissions g
      rw [admittedIn_append, List.length_append] at hall
      omega
    have hstep := h.step blank move hle (by omega) hfew
    exact ih hstep (move.blankWhileOpened blank) hrest fewGenerations fewAdmissions

/-- A step begins a new generation exactly if it enters another phase or begins a new window. -/
theorem generation_iff (h : t.HasLedger log begun latest) (move : Move now t notes later)
    (few : begun + (if later.breaker.circuit.generation = t.breaker.circuit.generation then 0 else 1)
      + 1 < 2 ^ 64) :
    later.breaker.circuit.generation = t.breaker.circuit.generation ↔
      later.breaker.circuit.phase = t.breaker.circuit.phase ∧
        later.breaker.circuit.expiry = t.breaker.circuit.expiry := by
  have hfound : (t.found now).generation = t.breaker.circuit.generation ↔
      (t.found now).phase = t.breaker.circuit.phase ∧
        (t.found now).expiry = t.breaker.circuit.expiry :=
    Circuit.refresh_generation_iff _ _ _
  cases move with
  | stay => simp
  | look => exact hfound
  | refuse id refusal => exact hfound
  | pass id limit idle free =>
    rw [(acquire_free t now free).1]
    exact hfound
  | settle id flight success stage inFlight ended =>
    show (t.breaker.record now flight.generation success).circuit.generation = _ ↔
      (t.breaker.record now flight.generation success).circuit.phase = _ ∧
        (t.breaker.record now flight.generation success).circuit.expiry = _
    rcases record_cases t now flight.generation success with
      ⟨hcircuit, _⟩ | ⟨hcurrent, _, hcircuit | ⟨phase, hphase, _, hcircuit⟩⟩
    · rw [hcircuit]
      exact hfound
    · rw [hcircuit]
      exact hfound
    · have hsame := h.found_same inFlight hcurrent few
      rw [hcircuit, hsame]
      rw [hsame] at hphase
      exact ⟨fun hg => absurd hg (generation_add_one_ne _).1, fun ⟨hp, _⟩ => absurd hp hphase⟩

/-- What a closed circuit counts when an outcome decides whether it trips lies within one window. -/
theorem within_window (h : t.HasLedger log begun latest) (hle : latest ≤ now)
    (told : now ≤ Instant.last) (same : t.found now = t.breaker.circuit)
    (closed : t.breaker.circuit.phase = .closed) (positive : t.breaker.settings.window ≠ 0) :
    ∃ first ≤ now, now < first + t.breaker.settings.window ∧
      ∀ note ∈ log ++ [.settled now id success],
        note.id ∈ admittedIn t.breaker.circuit.generation log →
          first ≤ note.time ∧ note.time ≤ now := by
  obtain ⟨first, hfirst, hexpiry, hnotes⟩ := h.window closed positive
  have hnow : now < first + t.breaker.settings.window := by
    have hgeneration := (generation_add_one_ne t.breaker.circuit.generation).1
    rcases Circuit.refresh_cases t.breaker.settings now t.breaker.circuit with
      ⟨_, hhalf | hexpired⟩ | ⟨heq, _, _⟩ | ⟨_, hopened, _⟩
    · rw [closed] at hhalf
      cases hhalf
    · rcases hexpiry with hexpiry | hbeyond
      · exact (Circuit.isExpired_eq_false_iff _ _).mp hexpired _ hexpiry
      · exact told.trans_lt hbeyond
    · rw [Traffic.found, heq] at same
      exact absurd (congrArg Circuit.generation same) hgeneration
    · rw [closed] at hopened
      cases hopened
  refine ⟨first, hfirst.trans hle, hnow, fun note hnote hmem => ?_⟩
  rcases List.mem_append.mp hnote with hold | hnew
  · exact ⟨hnotes note hold hmem, (h.past note hold).trans hle⟩
  · rw [List.mem_singleton.mp hnew]
    exact ⟨hfirst.trans hle, Nat.le_refl _⟩

end Traffic.HasLedger

/-- A fresh breaker has counted nothing, and nothing has happened. -/
theorem Traffic.IsFresh.hasLedger {t : Traffic} {began : Instant} (fresh : t.IsFresh began) :
    t.HasLedger [] 0 began := by
  unfold Traffic.HasLedger
  rw [fresh.circuit]
  refine ⟨rfl, fun h => (by cases h), fun id => ?_, .fresh, fun _ h => (by cases h), ?_⟩
  · rw [fresh.idle id]
    exact ⟨rfl, rfl⟩
  · intro _ hwindow
    exact ⟨began, Nat.le_refl _, .inl (if_neg hwindow), fun _ h => (by cases h)⟩

/-- A step that ends a call, against the books: an outcome of an earlier generation is not counted, and
one that decides whether a closed circuit trips is counted with the calls of one window. -/
theorem Traffic.HasLedger.of_settled {t : Traffic} {log : List Note} {begun : Nat}
    {latest now : Instant} {event : Event} {id : TaskId} {success : Bool}
    (h : t.HasLedger log begun latest) (hle : latest ≤ now)
    (few : begun + (if (t.step now event).breaker.circuit.generation
      = t.breaker.circuit.generation then 0 else 1) + 1 < 2 ^ 64)
    (fewCalls : ∀ g, (admittedIn g log).length < 2 ^ 32)
    (ends : t.noted now event = [.settled now id success]) :
    let found := t.found now
    let calls := admittedIn found.generation log
    let next := (t.step now event).breaker.circuit
    (id ∉ calls → next = found) ∧
    (id ∈ calls → found.phase = .closed →
      (found.counts.settled success).Agree calls (outcomesOf calls log ++ [success]) ∧
      (next.phase = .opened
        ↔ Circuit.isTripped t.breaker.settings (found.counts.settled success) = true) ∧
      (t.breaker.settings.window ≠ 0 → now ≤ Instant.last →
        ∃ first ≤ now, now < first + t.breaker.settings.window ∧
          ∀ note ∈ log ++ [.settled now id success],
            note.id ∈ calls → first ≤ note.time ∧ note.time ≤ now)) := by
  intro found calls next
  have move := step_move now t event
  rw [ends] at move
  obtain ⟨flight, stage, inFlight, _, hfinish⟩ := move.of_settled
  have hnext : next = (t.breaker.record now flight.generation success).circuit := by
    show (t.step now event).breaker.circuit = _
    rw [hfinish]
    rfl
  have hmem : id ∈ calls ↔ found.generation = flight.generation :=
    h.mem_iff_of_inFlight inFlight _
  constructor
  · intro hnot
    rw [hnext]
    exact record_stale t now success fun hg => hnot (hmem.mpr hg.symm)
  · intro hcall hclosed
    have hcurrent : flight.generation = found.generation := (hmem.mp hcall).symm
    rw [hfinish] at few
    have hsame : found = t.breaker.circuit := h.found_same inFlight hcurrent few
    have hcall' : id ∈ admittedIn t.breaker.circuit.generation log := by
      rw [← hsame]
      exact hcall
    have hlt := h.length_outcomesOf_lt inFlight hcall'
    have hbound := fewCalls t.breaker.circuit.generation
    refine ⟨?_, ?_, ?_⟩
    · show (found.counts.settled success).Agree (admittedIn found.generation log)
        (outcomesOf (admittedIn found.generation log) log ++ [success])
      rw [hsame]
      exact h.agree.settled success (by omega)
    · rw [hnext, record_circuit, if_pos hcurrent]
      exact Circuit.count_closed _ _ _ success hclosed
    · intro hpositive told
      show ∃ first ≤ now, now < first + t.breaker.settings.window ∧
        ∀ note ∈ log ++ [.settled now id success],
          note.id ∈ admittedIn found.generation log → first ≤ note.time ∧ note.time ≤ now
      rw [hsame] at hclosed ⊢
      exact h.within_window hle told hsame hclosed hpositive

/-- **The books are exact.**  However calls overlap and end: the counts are those of the calls let
through in the present generation and of their outcomes, each call ends once if it is no longer in
flight, and the outcome of a call of an earlier generation is not counted.  When an outcome decides
whether a closed circuit trips, at an instant that the clock can tell, all that is counted with it lies
within one window. -/
theorem bookkeeping_isExact {t : Traffic} {began : Instant} (fresh : t.IsFresh began)
    (steps : List (Instant × Event)) (inOrder : InOrder began steps)
    (fewGenerations : t.generationsBegun steps + 1 < 2 ^ 64)
    (fewAdmissions : ∀ g, (admittedIn g (t.log steps)).length < 2 ^ 32) :
    let later := t.run steps
    let circuit := later.breaker.circuit
    let calls := admittedIn circuit.generation (t.log steps)
    circuit.generation.toNat = t.generationsBegun steps + 1 ∧
    circuit.counts.Agree calls (outcomesOf calls (t.log steps)) ∧
    circuit.counts.requests.toNat = circuit.counts.successes.toNat
      + circuit.counts.failures.toNat + (calls.filter later.isInFlight).length ∧
    calls.Nodup ∧
    (∀ id, (t.log steps).countP (Note.admits id) ≤ 1 ∧
      (t.log steps).countP (Note.settles id) + (if later.isInFlight id then 1 else 0)
        = (t.log steps).countP (Note.admits id)) ∧
    ∀ before now event after, steps = before ++ (now, event) :: after →
      let here := t.run before
      let next := (here.step now event).breaker.circuit
      (next.generation = here.breaker.circuit.generation ↔
        next.phase = here.breaker.circuit.phase ∧ next.expiry = here.breaker.circuit.expiry) ∧
      ∀ id success, here.noted now event = [.settled now id success] →
        let found := here.found now
        let calls := admittedIn found.generation (t.log before)
        (id ∉ calls → next = found) ∧
        (id ∈ calls → found.phase = .closed →
          (found.counts.settled success).Agree calls
            (outcomesOf calls (t.log before) ++ [success]) ∧
          (next.phase = .opened
            ↔ Circuit.isTripped t.breaker.settings (found.counts.settled success) = true) ∧
          (t.breaker.settings.window ≠ 0 → now ≤ Instant.last →
            ∃ first ≤ now, now < first + t.breaker.settings.window ∧
              ∀ note ∈ t.log before ++ [.settled now id success],
                note.id ∈ calls → first ≤ note.time ∧ note.time ≤ now)) := by
  intro later circuit calls
  have blank := fresh.run_blankWhileOpened []
  obtain ⟨last, _, hledger⟩ := fresh.hasLedger.run blank
    (by rw [List.append_nil]; exact inOrder) (by rw [Nat.zero_add]; exact fewGenerations)
    fewAdmissions
  rw [List.nil_append, Nat.zero_add] at hledger
  have hagree := hledger.agree
  refine ⟨hledger.number, hagree, ?_, hledger.nodup _, fun id => ?_, ?_⟩
  · have hbalance := Ledger.balance hledger circuit.generation
    have hcount := List.count_true_add_count_false (outcomesOf calls (t.log steps))
    rw [hagree.requests, hagree.successes, hagree.failures, hbalance, ← hcount]
  · exact ⟨(hledger.told id).admits_le, (hledger.told id).settles_add⟩
  · intro before now event after hsteps here next
    have hbegun : t.generationsBegun before + (if next.generation
        = here.breaker.circuit.generation then 0 else 1) + 1 < 2 ^ 64 := by
      have hsum : t.generationsBegun steps = t.generationsBegun before
          + ((if next.generation = here.breaker.circuit.generation then 0 else 1)
            + (here.step now event).generationsBegun after) := by
        rw [hsteps, generationsBegun_append]
        rfl
      omega
    have hcalls : ∀ g, (admittedIn g (t.log before)).length < 2 ^ 32 := by
      intro g
      have hall := fewAdmissions g
      rw [hsteps, log_append, admittedIn_append, List.length_append] at hall
      omega
    obtain ⟨last, hrest, hbefore⟩ := fresh.hasLedger.run blank (hsteps ▸ inOrder)
      (by omega) hcalls
    rw [List.nil_append, Nat.zero_add] at hbefore
    refine ⟨hbefore.generation_iff (step_move now here event) hbegun, ?_⟩
    intro id success hends
    have hsettled := hbefore.of_settled (inOrder_cons hrest).1 hbegun hcalls hends
    rw [run_settings] at hsettled
    exact hsettled

/-- Two calls begin in one window; one of them is dropped in the next window, where it is not counted,
and the one call of that window then decides that the circuit trips. -/
theorem bookkeeping_isExact_across_windows :
    let t := Traffic.start { window := 10, minRequests := 1 } 0
    let before : List (Instant × Event) :=
      [(1, .call 0 none), (2, .call 1 none), (3, .settle 0 (.ok ())), (12, .call 2 none)]
    let steps : List (Instant × Event) := before ++ [(13, .drop 1), (14, .drop 2)]
    let circuit := (t.run steps).breaker.circuit
    InOrder 0 steps ∧ t.generationsBegun steps + 1 < 2 ^ 64 ∧
      (∀ g, (admittedIn g (t.log steps)).length < 2 ^ 32) ∧
      circuit.counts.Agree (admittedIn circuit.generation (t.log steps))
        (outcomesOf (admittedIn circuit.generation (t.log steps)) (t.log steps)) ∧
      ((t.run before).step 13 (.drop 1)).breaker.circuit = (t.run before).found 13 ∧
      circuit.phase = .opened := by
  intro t before steps circuit
  have fresh : t.IsFresh 0 := ⟨rfl, fun _ => rfl⟩
  have inOrder : InOrder 0 steps := by decide +kernel
  have fewGenerations : t.generationsBegun steps + 1 < 2 ^ 64 := by decide +kernel
  have fewAdmissions : ∀ g, (admittedIn g (t.log steps)).length < 2 ^ 32 := by
    have hlength : (t.log steps).length < 2 ^ 32 := by decide +kernel
    exact fun g => lt_of_le_of_lt length_admittedIn_le hlength
  obtain ⟨_, hagree, _, _, _, hsteps⟩ :=
    bookkeeping_isExact fresh steps inOrder fewGenerations fewAdmissions
  have stale := ((hsteps before 13 (.drop 1) [(14, .drop 2)] rfl).2 1 false (by decide +kernel)).1
  exact ⟨inOrder, fewGenerations, fewAdmissions, hagree, stale (by decide +kernel),
    by decide +kernel⟩

end ProfileGuard.Breaker
