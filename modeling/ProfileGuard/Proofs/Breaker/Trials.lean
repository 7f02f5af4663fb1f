import Mathlib.Data.List.Nodup
import Mathlib.Data.List.Perm.Subperm
import ProfileGuard.Proofs.Breaker.Touches

/-!
# The trials of a half-open circuit

A half-open circuit lives for one generation, so what was noted since that generation began is what its
trials have done.  Held against those notes, the circuit knows how many trials have succeeded; none of them
has failed, and every trial that it let through has succeeded or is in flight.  Nothing is assumed about how
many generations there have been.

* **`Breaker.Told`** — the notes of a run, and the recent ones, against the stages of the calls.
* **`Breaker.Trials`** — a half-open circuit against its trials.
* **`Breaker.run_trials`** — the agreement after any run.
-/

namespace ProfileGuard.Breaker

variable {log recent notes more : List Note} {id : TaskId} {now : Instant}

/-! ### Calls that were let through -/

@[simp]
theorem letThrough_append : letThrough (notes ++ more) = letThrough notes ++ letThrough more :=
  List.filterMap_append

@[simp]
theorem letThrough_admitted (g : UInt64) : letThrough [.admitted now id g] = [id] := rfl

@[simp]
theorem letThrough_settled (success : Bool) : letThrough [.settled now id success] = [] := rfl

theorem mem_letThrough : id ∈ letThrough notes ↔ ∃ time g, Note.admitted time id g ∈ notes := by
  rw [letThrough, List.mem_filterMap]
  constructor
  · rintro ⟨note, hnote, h⟩
    cases note with
    | admitted time other g => exact ⟨time, g, by rw [← Option.some.inj h]; exact hnote⟩
    | settled time other success => cases h
  · rintro ⟨time, g, h⟩
    exact ⟨_, h, rfl⟩

theorem count_letThrough : (letThrough notes).count id = notes.countP (Note.admits id) := by
  induction notes with
  | nil => rfl
  | cons note notes ih =>
    cases note with
    | admitted time other g =>
      show (other :: letThrough notes).count id = _
      rw [List.count_cons, List.countP_cons, ih]
      simp [Note.admits]
    | settled time other success =>
      show (letThrough notes).count id = _
      rw [List.countP_cons, ih]
      simp [Note.admits]

/-! ### What the notes tell -/

/-- The notes of a run tell how far each call has come, and the recent ones are about calls that were let
through in the present generation. -/
structure Told (stages : Tasks Stage) (generation : UInt64) (log recent : List Note) : Prop where
  stage : ∀ id, (stages id).IsToldBy log id
  suffix : recent <:+ log
  own : ∀ {time id g}, Note.admitted time id g ∈ recent → g = generation

namespace Told

variable {stages : Tasks Stage} {generation : UInt64}

theorem nodup (h : Told stages generation log recent) : (letThrough recent).Nodup := by
  refine List.nodup_iff_count_le_one.mpr fun id => ?_
  rw [count_letThrough]
  exact (h.suffix.sublist.countP_le).trans (h.stage id).admits_le

/-- A call in flight carries the number of the present generation exactly if it was let through in a
generation of that number. -/
theorem mem_admittedIn (h : Told stages generation log recent) {flight : Flight}
    (inFlight : stages id = .inFlight flight) (g : UInt64) :
    id ∈ admittedIn g log ↔ g = flight.generation := by
  have htold := h.stage id
  rw [inFlight] at htold
  exact htold.2.2 g

/-- A call in flight that was let through since the present generation began carries its number. -/
theorem generation_of_mem (h : Told stages generation log recent) {flight : Flight}
    (inFlight : stages id = .inFlight flight) (mem : id ∈ letThrough recent) :
    flight.generation = generation := by
  obtain ⟨time, g, hnote⟩ := mem_letThrough.mp mem
  have hlog : id ∈ admittedIn g log :=
    Breaker.mem_admittedIn.mpr ⟨time, h.suffix.subset hnote⟩
  rw [← (h.mem_admittedIn inFlight g).mp hlog, h.own hnote]

theorem not_mem_of_idle (h : Told stages generation log recent) (idle : stages id = .idle) :
    id ∉ letThrough recent := by
  intro hmem
  obtain ⟨time, g, hnote⟩ := mem_letThrough.mp hmem
  have htold : Stage.idle.IsToldBy log id := idle ▸ h.stage id
  exact htold.id_ne (h.suffix.subset hnote) rfl

theorem settles_of_idle (h : Told stages generation log recent) (idle : stages id = .idle) :
    recent.countP (Note.settles id) = 0 := by
  have htold : Stage.idle.IsToldBy log id := idle ▸ h.stage id
  exact Nat.le_zero.mp (htold.2 ▸ h.suffix.sublist.countP_le)

end Told

variable {t : Traffic}

/-- The first half of a step keeps what the notes tell. -/
theorem Told.found (h : Told t.stages t.breaker.circuit.generation log recent) (now : Instant)
    (event : Event) : Told t.stages (t.foundBy now event).generation log
      (t.recentFor recent now event) := by
  unfold Traffic.recentFor
  split
  · rename_i hsame
    rw [hsame]
    exact h
  · exact ⟨h.stage, List.nil_suffix, fun hmem => by cases hmem⟩

/-- The generation of a call that is let through is the one that its beginning finds. -/
theorem generation_of_noted {time : Instant} {g : UInt64} {event : Event}
    (h : Note.admitted time id g ∈ t.noted now event) :
    g = (t.foundBy now event).generation := by
  cases htouches : t.touches event with
  | false =>
    rw [noted_of_same (step_of_not_touches htouches)] at h
    cases h
  | true =>
    have touch := touch_of_touches now htouches
    rw [foundBy_of_touches htouches]
    generalize t.noted now event = notes at touch h
    generalize t.step now event = later at touch
    cases touch with
    | quiet => cases h
    | pass => cases List.mem_singleton.mp h; rfl
    | settle => cases List.mem_singleton.mp h

theorem Told.step (h : Told t.stages t.breaker.circuit.generation log recent) (now : Instant)
    (event : Event) :
    Told (t.step now event).stages (t.step now event).breaker.circuit.generation
      (log ++ t.noted now event) (t.recentAfter recent now event) := by
  have found := h.found now event
  refine ⟨(step_move now t event).told h.stage, ?_, fun hmem => ?_⟩
  · unfold Traffic.recentAfter
    split
    · obtain ⟨older, holder⟩ := found.suffix
      exact ⟨older, by rw [← List.append_assoc, holder]⟩
    · exact List.nil_suffix
  · unfold Traffic.recentAfter at hmem
    split at hmem
    · rename_i hsame
      rw [hsame]
      rcases List.mem_append.mp hmem with hold | hnew
      · exact found.own hold
      · exact generation_of_noted hnew
    · cases hmem

/-! ### Calls in flight -/

section Flights

variable {stages : Tasks Stage} {ids : List TaskId}

theorem filter_set_of_not_mem (h : id ∉ ids) (stage : Stage) :
    ids.filter (fun other => (stages.set id stage other).isInFlight)
      = ids.filter fun other => (stages other).isInFlight := by
  refine List.filter_congr fun other hother => ?_
  have hne : other ≠ id := fun heq => h (heq ▸ hother)
  rw [Tasks.set_other _ _ hne]

/-- When one call goes on, at most one call less is in flight. -/
theorem length_filter_set (stages : Tasks Stage) (nodup : ids.Nodup) (id : TaskId)
    (stage : Stage) :
    (ids.filter fun other => (stages other).isInFlight).length
      ≤ (ids.filter fun other => (stages.set id stage other).isInFlight).length + 1 := by
  have hsubset : (ids.filter fun other => (stages other).isInFlight)
      ⊆ id :: ids.filter fun other => (stages.set id stage other).isInFlight := by
    intro other hother
    obtain ⟨hmem, hflight⟩ := List.mem_filter.mp hother
    by_cases heq : other = id
    · exact heq ▸ List.mem_cons_self
    · refine List.mem_cons_of_mem _ (List.mem_filter.mpr ⟨hmem, ?_⟩)
      rw [Tasks.set_other _ _ heq]
      exact hflight
  exact (List.subperm_of_subset (nodup.filter _) hsubset).length_le

end Flights

/-! ### A half-open circuit against its trials -/

/-- A half-open circuit knows how many of its trials have succeeded: fewer than would close it, and none has
failed.  The trials it has let through are within its limit, and each has succeeded or is in flight. -/
structure Trials (s : Settings) (c : Circuit) (stages : Tasks Stage) (log recent : List Note) :
    Prop where
  successes : c.counts.successRun.toNat
    = (outcomesOf (admittedIn c.generation log) recent).count true
  unfailed : false ∉ outcomesOf (admittedIn c.generation log) recent
  few : c.counts.successRun.toNat < s.closeAfter.toNat
  within : c.counts.requests.toNat ≤ s.trialLimit.toNat
  covered : c.counts.requests.toNat ≤ c.counts.successRun.toNat
    + ((letThrough recent).filter fun id => (stages id).isInFlight).length

namespace Trials

variable {s : Settings} {c : Circuit} {stages later : Tasks Stage}

/-- A half-open period begins without trials. -/
theorem fresh {c : Circuit} (counts : c.counts = {}) (positive : s.closeAfter ≠ 0) :
    Trials s c stages log [] := by
  have hpositive : 0 < s.closeAfter.toNat := by
    rw [← UInt32.toNat_zero, ← UInt32.lt_iff_toNat_lt]
    exact UInt32.pos_iff_ne_zero.mpr positive
  refine ⟨?_, List.not_mem_nil, ?_, ?_, ?_⟩ <;> rw [counts]
  · rfl
  · exact hpositive
  · exact Nat.zero_le _
  · exact Nat.zero_le _

theorem quiet (h : Trials s c stages log recent)
    (flights : ∀ id, (later id).isInFlight = (stages id).isInFlight) :
    Trials s c later log recent := by
  refine ⟨h.successes, h.unfailed, h.few, h.within, ?_⟩
  simp only [flights]
  exact h.covered

/-- One more trial is let through. -/
theorem pass (h : Trials s c stages log recent) (told : Told stages c.generation log recent)
    (idle : stages id = .idle) (halfOpen : c.phase = .halfOpen) (free : c.refusal? s = none)
    (limit : Option Duration) :
    Trials s { c with counts := c.counts.admitted }
      (stages.set id (.inFlight ⟨c.generation, now, limit⟩))
      (log ++ [.admitted now id c.generation]) (recent ++ [.admitted now id c.generation]) := by
  have houtcomes : outcomesOf
        (admittedIn c.generation (log ++ [.admitted now id c.generation]))
        (recent ++ [.admitted now id c.generation])
      = outcomesOf (admittedIn c.generation log) recent := by
    rw [admittedIn_append, admittedIn_admitted, if_pos rfl, outcomesOf_append, outcomesOf_admitted,
      List.append_nil, outcomesOf_concat (told.settles_of_idle idle)]
  have hlt : c.counts.requests.toNat < s.trialLimit.toNat := by
    simpa [refusal_halfOpen halfOpen] using free
  have hraise : (raise c.counts.requests).toNat = c.counts.requests.toNat + 1 := by
    have := s.trialLimit.toNat_lt
    exact toNat_raise (by omega)
  refine ⟨?_, ?_, h.few, ?_, ?_⟩
  · rw [houtcomes]
    exact h.successes
  · rw [houtcomes]
    exact h.unfailed
  · show (raise c.counts.requests).toNat ≤ _
    omega
  · have hcovered := h.covered
    have hflight : ([id].filter fun other => (stages.set id
        (.inFlight ⟨c.generation, now, limit⟩) other).isInFlight) = [id] := by
      simp [Stage.isInFlight]
    rw [letThrough_append, letThrough_admitted, List.filter_append, List.length_append,
      filter_set_of_not_mem (told.not_mem_of_idle idle), hflight, List.length_singleton]
    show (raise c.counts.requests).toNat ≤ c.counts.successRun.toNat + _
    omega

/-- An outcome that is not counted is that of no trial. -/
theorem pass_by (h : Trials s c stages log recent) (told : Told stages c.generation log recent)
    {flight : Flight} (inFlight : stages id = .inFlight flight)
    (stale : flight.generation ≠ c.generation) (stage : Stage) (success : Bool) :
    Trials s c (stages.set id stage) (log ++ [.settled now id success])
      (recent ++ [.settled now id success]) := by
  have houtcomes : outcomesOf (admittedIn c.generation (log ++ [.settled now id success]))
        (recent ++ [.settled now id success])
      = outcomesOf (admittedIn c.generation log) recent := by
    have hnot : id ∉ admittedIn c.generation log := by
      rw [told.mem_admittedIn inFlight]
      exact stale.symm
    rw [admittedIn_append, admittedIn_settled, List.append_nil, outcomesOf_append,
      outcomesOf_settled, if_neg hnot, List.append_nil]
  refine ⟨?_, ?_, h.few, h.within, ?_⟩
  · rw [houtcomes]
    exact h.successes
  · rw [houtcomes]
    exact h.unfailed
  · rw [letThrough_append, letThrough_settled, List.append_nil,
      filter_set_of_not_mem fun hmem => stale (told.generation_of_mem inFlight hmem)]
    exact h.covered

/-- One more trial succeeds. -/
theorem succeed (h : Trials s c stages log recent) (told : Told stages c.generation log recent)
    {flight : Flight} (inFlight : stages id = .inFlight flight)
    (current : flight.generation = c.generation) (stage : Stage)
    (few : c.counts.successRun.toNat + 1 < s.closeAfter.toNat) :
    Trials s { c with counts := c.counts.succeeded } (stages.set id stage)
      (log ++ [.settled now id true]) (recent ++ [.settled now id true]) := by
  have houtcomes : outcomesOf (admittedIn c.generation (log ++ [.settled now id true]))
        (recent ++ [.settled now id true])
      = outcomesOf (admittedIn c.generation log) recent ++ [true] := by
    have hmem : id ∈ admittedIn c.generation log := by
      rw [told.mem_admittedIn inFlight]
      exact current.symm
    rw [admittedIn_append, admittedIn_settled, List.append_nil, outcomesOf_append,
      outcomesOf_settled, if_pos hmem]
  have hraise : (raise c.counts.successRun).toNat = c.counts.successRun.toNat + 1 := by
    have := s.closeAfter.toNat_lt
    exact toNat_raise (by omega)
  refine ⟨?_, ?_, ?_, h.within, ?_⟩
  · rw [houtcomes, List.count_append, ← h.successes]
    exact hraise
  · rw [houtcomes]
    simpa using h.unfailed
  · show (raise c.counts.successRun).toNat < _
    omega
  · rw [letThrough_append, letThrough_settled, List.append_nil]
    have hcovered := h.covered
    have hflights := length_filter_set stages told.nodup id stage
    show c.counts.requests.toNat ≤ (raise c.counts.successRun).toNat + _
    omega

end Trials

/-! ### Along a run -/

/-- A half-open circuit of a breaker agrees with its trials. -/
def Traffic.HasTrials (t : Traffic) (log recent : List Note) : Prop :=
  t.breaker.circuit.phase = .halfOpen →
    Trials t.breaker.settings t.breaker.circuit t.stages log recent

/-- A circuit that an event finds half-open agrees with its trials. -/
theorem Traffic.HasTrials.found {event : Event} (h : t.HasTrials log recent)
    (positive : t.breaker.settings.closeAfter ≠ 0)
    (halfOpen : (t.foundBy now event).phase = .halfOpen) :
    Trials t.breaker.settings (t.foundBy now event) t.stages log
      (t.recentFor recent now event) := by
  rcases foundBy_cases t now event with heq | ⟨_, _, ⟨hphase, heq⟩ | ⟨_, heq⟩⟩
  · rw [Traffic.recentFor, heq, if_pos rfl]
    rw [heq] at halfOpen
    exact h halfOpen
  · rw [heq, Circuit.renew_phase, hphase] at halfOpen
    cases halfOpen
  · have hgeneration : (t.foundBy now event).generation ≠ t.breaker.circuit.generation := by
      rw [heq]
      exact (generation_add_one_ne _).1
    rw [Traffic.recentFor, if_neg hgeneration]
    exact .fresh (by rw [heq]; rfl) positive

/-- What an outcome of a trial does to a half-open circuit: a failure opens it, and so many successes in a
row close it. -/
theorem Circuit.count_halfOpen (s : Settings) (now : Instant) {c : Circuit} (success : Bool)
    (h : c.phase = .halfOpen) :
    (c.count s now success).circuit.phase
      = if success = false then .opened
        else if s.closeAfter ≤ c.counts.succeeded.successRun then .closed else .halfOpen := by
  cases success with
  | false => simp [Circuit.count, h]
  | true =>
    simp only [Circuit.count, h]
    by_cases hclose : s.closeAfter ≤ c.counts.succeeded.successRun
    · simp [hclose]
    · simp [hclose]

/-- A success closes a half-open circuit exactly if it completes the number of successes needed. -/
theorem Trials.closes_iff {s : Settings} {c : Circuit} {stages : Tasks Stage}
    (h : Trials s c stages log recent) : s.closeAfter ≤ c.counts.succeeded.successRun ↔
      (outcomesOf (admittedIn c.generation log) recent).count true + 1 = s.closeAfter.toNat := by
  have hfew := h.few
  have hlimit := s.closeAfter.toNat_lt
  have hraise : c.counts.succeeded.successRun.toNat = c.counts.successRun.toNat + 1 :=
    toNat_raise (by omega)
  rw [UInt32.le_iff_toNat_le, hraise, ← h.successes]
  omega

theorem Traffic.HasTrials.step (h : t.HasTrials log recent)
    (told : Told t.stages t.breaker.circuit.generation log recent)
    (positive : t.breaker.settings.closeAfter ≠ 0) (now : Instant) (event : Event) :
    (t.step now event).HasTrials (log ++ t.noted now event) (t.recentAfter recent now event) := by
  intro halfOpen
  rw [step_settings]
  rcases step_circuit_cases t now event with ⟨counts, hnext⟩ | ⟨_, phase, _, hphase, hnext⟩
  · have hfound : (t.foundBy now event).phase = .halfOpen := by
      rw [hnext] at halfOpen
      exact halfOpen
    have hrecent : t.recentAfter recent now event
        = t.recentFor recent now event ++ t.noted now event := by
      rw [Traffic.recentAfter, hnext, if_pos rfl]
    have trials := h.found positive hfound
    have told := told.found now event
    rw [hrecent]
    cases htouches : t.touches event with
    | false =>
      rw [foundBy_of_not_touches htouches] at trials
      rw [noted_of_same (step_of_not_touches htouches), step_of_not_touches htouches,
        List.append_nil, List.append_nil]
      exact trials
    | true =>
      have touch := touch_of_touches now htouches
      rw [foundBy_of_touches htouches] at trials told hfound
      generalize t.noted now event = notes at touch
      generalize t.step now event = later at touch halfOpen
      cases touch with
      | quiet circuit flights =>
        rw [circuit, List.append_nil, List.append_nil]
        exact trials.quiet flights
      | pass id limit idle free circuit stages =>
        rw [circuit, stages]
        exact trials.pass told idle hfound free limit
      | settle id flight success stage inFlight ended =>
        change (t.breaker.record now flight.generation success).circuit.phase = .halfOpen
          at halfOpen
        show Trials t.breaker.settings (t.breaker.record now flight.generation success).circuit
          (t.stages.set id stage) _ _
        by_cases hcurrent : flight.generation = (t.found now).generation
        · rw [record_circuit, if_pos hcurrent] at halfOpen ⊢
          have hcount := Circuit.count_halfOpen t.breaker.settings now success hfound
          rw [halfOpen] at hcount
          cases success with
          | false => cases hcount
          | true =>
            have hopen : ¬ t.breaker.settings.closeAfter
                ≤ (t.found now).counts.succeeded.successRun := by
              intro hclose
              rw [if_neg (by simp), if_pos hclose] at hcount
              cases hcount
            have hfew : (t.found now).counts.successRun.toNat + 1
                < t.breaker.settings.closeAfter.toNat := by
              rw [trials.closes_iff, ← trials.successes] at hopen
              have := trials.few
              omega
            have hcircuit : ((t.found now).count t.breaker.settings now true).circuit
                = { t.found now with counts := (t.found now).counts.succeeded } := by
              simp [Circuit.count, hfound, hopen]
            rw [hcircuit]
            exact trials.succeed told inFlight hcurrent stage hfew
        · rw [record_stale t now success hcurrent]
          exact trials.pass_by told inFlight hcurrent stage success
  · rw [hnext] at halfOpen
    exact absurd halfOpen hphase

/-- **A half-open circuit agrees with its trials** after any run. -/
theorem run_trials (told : Told t.stages t.breaker.circuit.generation log recent)
    (trials : t.HasTrials log recent) (positive : t.breaker.settings.closeAfter ≠ 0)
    (steps : List (Instant × Event)) :
    Told (t.run steps).stages (t.run steps).breaker.circuit.generation (log ++ t.log steps)
        (t.recent recent steps) ∧
      (t.run steps).HasTrials (log ++ t.log steps) (t.recent recent steps) := by
  induction steps generalizing t log recent with
  | nil =>
    rw [Traffic.log, List.append_nil]
    exact ⟨told, trials⟩
  | cons s steps ih =>
    rw [Traffic.log, ← List.append_assoc]
    exact ih (told.step s.1 s.2) (trials.step told positive s.1 s.2)
      (by rw [step_settings]; exact positive)

/-- A fresh breaker has noted nothing. -/
theorem Traffic.IsFresh.told {began : Instant} (fresh : t.IsFresh began) :
    Told t.stages t.breaker.circuit.generation [] [] := by
  refine ⟨fun id => ?_, List.nil_suffix, fun hmem => by cases hmem⟩
  rw [fresh.idle id]
  exact ⟨rfl, rfl⟩

theorem Traffic.IsFresh.hasTrials {began : Instant} (fresh : t.IsFresh began) :
    t.HasTrials [] [] := by
  intro halfOpen
  rw [fresh.circuit] at halfOpen
  cases halfOpen

end ProfileGuard.Breaker
