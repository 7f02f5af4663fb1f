import ProfileGuard.Proofs.Breaker.Trials

/-!
# When a breaker changes its phase

Each phase change has its one reason, and each reason makes its phase change, whatever else is in flight.
Calls belong to a generation by its number, as the breaker itself tells them apart.

* **`Breaker.IsDue`** — the reason for each phase change, told from the history of a run.
* **`Breaker.changes_iff_isDue`** — the phase changes of a run are those that are due;
  **`Breaker.probed_before_time`** — what is due where the clock cannot tell when an open circuit is to be tried.
-/

namespace ProfileGuard.Breaker

/-- The reason for a phase change at an event that comes after a run of a breaker.

* A closed circuit opens when a call of the present generation ends, before the window is over, and the
  counts with its outcome reach both thresholds.
* An open circuit becomes half-open when it is touched after its time is over; it would have done so at any
  earlier touch.  Where the clock cannot tell when that time is over, the generation before the circuit
  opened has to be over instead.
* A half-open circuit closes when a trial succeeds, with which the number of successes needed is complete,
  and none has failed.
* A half-open circuit opens when a trial fails, and none has failed before.
* Nothing else changes the phase. -/
def IsDue (t : Traffic) (began : Instant) (steps : List (Instant × Event)) (now : Instant)
    (event : Event) : Phase → Phase → Prop :=
  let s := t.breaker.settings
  let here := t.run steps
  let found := here.foundBy now event
  let calls := admittedIn found.generation (t.log steps)
  let outcomes := outcomesOf calls (here.recentFor (t.recent [] steps) now event)
  fun
  | .closed, .opened => found.phase = .closed ∧ (∀ expiry, found.expiry = some expiry → now < expiry) ∧
    ∃ id success, here.noted now event = [.settled now id success] ∧ id ∈ calls ∧
      let counts := found.counts.settled success
      s.minRequests ≤ counts.requests ∧ s.tripRatio.value ≤ counts.failureRatio
  | .opened, .halfOpen => here.breaker.circuit.phase = .opened ∧ here.touches event = true ∧
    ∃ due ≤ now,
      (Instant.after? (t.lastChange began steps) s.openFor).or (t.lastEnd none steps) = some due
  | .halfOpen, .closed => found.phase = .halfOpen ∧ false ∉ outcomes ∧
    ∃ id, here.noted now event = [.settled now id true] ∧ id ∈ calls ∧
      outcomes.count true + 1 = s.closeAfter.toNat
  | .halfOpen, .opened => found.phase = .halfOpen ∧ false ∉ outcomes ∧
    ∃ id, here.noted now event = [.settled now id false] ∧ id ∈ calls
  | _, _ => False

variable {t : Traffic} {now : Instant} {event : Event}

/-- The first half of a step changes the phase of an open circuit only, and of one whose time is over. -/
theorem foundBy_phase_iff {after : Phase} (h : after ≠ t.breaker.circuit.phase) :
    (t.foundBy now event).phase = after ↔ after = .halfOpen ∧ t.breaker.circuit.phase = .opened ∧
      t.touches event = true ∧ t.breaker.circuit.isExpired now = true := by
  constructor
  · intro hafter
    rcases foundBy_cases t now event with
      heq | ⟨htouches, hexpired, ⟨_, heq⟩ | ⟨hphase, heq⟩⟩
    · rw [heq] at hafter
      exact absurd hafter.symm h
    · rw [heq] at hafter
      exact absurd hafter.symm h
    · rw [heq] at hafter
      exact ⟨hafter.symm, hphase, htouches, hexpired⟩
  · rintro ⟨rfl, hphase, htouches, hexpired⟩
    simp [foundBy_of_touches htouches, Traffic.found, Circuit.refresh, hexpired, hphase]

/-- The second half of a step changes the phase only if a call of the present generation ends, and its
outcome is what changes it. -/
theorem step_phase_iff {log recent : List Note}
    (told : Told t.stages t.breaker.circuit.generation log recent) {after : Phase}
    (h : after ≠ (t.foundBy now event).phase) :
    (t.step now event).breaker.circuit.phase = after ↔
      ∃ id success, t.noted now event = [.settled now id success] ∧
        id ∈ admittedIn (t.foundBy now event).generation log ∧
        ((t.foundBy now event).count t.breaker.settings now success).circuit.phase = after := by
  cases htouches : t.touches event with
  | false =>
    rw [noted_of_same (step_of_not_touches htouches), step_of_not_touches htouches,
      foundBy_of_not_touches htouches] at *
    refine ⟨fun hafter => absurd hafter.symm h, ?_⟩
    rintro ⟨_, _, hnoted, _⟩
    cases hnoted
  | true =>
    have touch := touch_of_touches now htouches
    rw [foundBy_of_touches htouches] at h ⊢
    generalize t.noted now event = notes at touch ⊢
    generalize t.step now event = later at touch ⊢
    cases touch with
    | quiet circuit =>
      rw [circuit]
      refine ⟨fun hafter => absurd hafter.symm h, ?_⟩
      rintro ⟨_, _, hnoted, _⟩
      cases hnoted
    | pass id limit idle free circuit =>
      rw [circuit]
      refine ⟨fun hafter => absurd hafter.symm h, ?_⟩
      rintro ⟨_, _, hnoted, _⟩
      cases hnoted
    | settle id flight success stage inFlight ended =>
      show (t.breaker.record now flight.generation success).circuit.phase = after ↔ _
      rw [record_circuit]
      constructor
      · intro hafter
        split at hafter
        · rename_i hcurrent
          exact ⟨id, success, rfl, (told.mem_admittedIn inFlight _).mpr hcurrent.symm, hafter⟩
        · exact absurd hafter.symm h
      · rintro ⟨other, outcome, hnoted, hmem, hafter⟩
        simp only [List.cons.injEq, Note.settled.injEq, true_and, and_true] at hnoted
        obtain ⟨rfl, rfl⟩ := hnoted
        rw [if_pos ((told.mem_admittedIn inFlight _).mp hmem).symm]
        exact hafter

/-! ### Generations and their numbers -/

/-- The present generation has its number from the generations begun before it, and what was noted before
it began tells of calls of earlier generations only. -/
structure Numbered (generation : UInt64) (begun : Nat) (log recent : List Note) : Prop where
  number : generation.toNat = begun + 1
  earlier : ∃ older, log = older ++ recent ∧
    ∀ {time id g}, Note.admitted time id g ∈ older → g.toNat ≤ begun

section Numbers

variable {log recent : List Note} {begun : Nat}

/-- No call belongs to a later generation. -/
theorem Numbered.known {generation : UInt64} {stages : Tasks Stage}
    (h : Numbered generation begun log recent) (told : Told stages generation log recent)
    {time : Instant} {id : TaskId} {g : UInt64} (hnote : Note.admitted time id g ∈ log) :
    g.toNat ≤ begun + 1 := by
  obtain ⟨older, hlog, holder⟩ := h.earlier
  rw [hlog] at hnote
  rcases List.mem_append.mp hnote with hold | hnew
  · exact (holder hold).trans (Nat.le_succ _)
  · rw [told.own hnew, h.number]

theorem toNat_add_one {g : UInt64} {n : Nat} (h : g.toNat = n) (few : n + 1 < 2 ^ 64) :
    (g + 1).toNat = n + 1 := by
  rw [UInt64.toNat_add, h]
  exact Nat.mod_eq_of_lt few

/-- The first half of a step begins one generation at most. -/
theorem foundBy_generation (t : Traffic) (now : Instant) (event : Event) :
    (t.foundBy now event).generation = t.breaker.circuit.generation ∨
      (t.foundBy now event).generation = t.breaker.circuit.generation + 1 := by
  rcases foundBy_cases t now event with heq | ⟨_, _, ⟨_, heq⟩ | ⟨_, heq⟩⟩
  · exact .inl (by rw [heq])
  · exact .inr (by rw [heq]; rfl)
  · exact .inr (by rw [heq]; rfl)

/-- The second half begins one generation at most, and none if the first half has begun one: no call
belongs to that generation yet. -/
theorem step_generation (told : Told t.stages t.breaker.circuit.generation log recent)
    (h : Numbered t.breaker.circuit.generation begun log recent) (few : begun + 2 < 2 ^ 64)
    (now : Instant) (event : Event) :
    (t.step now event).breaker.circuit.generation = (t.foundBy now event).generation ∨
      ((t.foundBy now event).generation = t.breaker.circuit.generation ∧
        (t.step now event).breaker.circuit.generation = t.breaker.circuit.generation + 1) := by
  rcases step_circuit_cases t now event with ⟨counts, hnext⟩ | ⟨counts, phase, hphase, _, hnext⟩
  · exact .inl (by rw [hnext])
  · rcases foundBy_generation t now event with hsame | hbegun
    · exact .inr ⟨hsame, by rw [hnext, ← hsame]; rfl⟩
    · exfalso
      have hafter : (t.step now event).breaker.circuit.phase = phase := by
        rw [hnext]
        rfl
      obtain ⟨id, success, _, hmem, _⟩ := (step_phase_iff told hphase).mp hafter
      obtain ⟨time, hnote⟩ := mem_admittedIn.mp hmem
      have hknown := h.known told hnote
      rw [hbegun, toNat_add_one h.number few] at hknown
      omega

/-- A step that stays in its generation finds that generation. -/
theorem foundBy_generation_of_same (same : (t.step now event).breaker.circuit.generation
    = t.breaker.circuit.generation) :
    (t.foundBy now event).generation = t.breaker.circuit.generation := by
  rcases foundBy_generation t now event with h | h
  · exact h
  · exfalso
    obtain ⟨hone, htwo⟩ := generation_add_one_ne t.breaker.circuit.generation
    rcases step_circuit_cases t now event with ⟨_, hnext⟩ | ⟨_, _, _, _, hnext⟩
    · rw [hnext] at same
      exact hone (h.symm.trans same)
    · rw [hnext] at same
      have htwice : (t.foundBy now event).generation + 1 = t.breaker.circuit.generation := same
      rw [h] at htwice
      exact htwo htwice

theorem Numbered.step (h : Numbered t.breaker.circuit.generation begun log recent)
    (told : Told t.stages t.breaker.circuit.generation log recent) (now : Instant) (event : Event)
    (few : begun + (if (t.step now event).breaker.circuit.generation
      = t.breaker.circuit.generation then 0 else 1) + 1 < 2 ^ 64) :
    Numbered (t.step now event).breaker.circuit.generation
      (begun + if (t.step now event).breaker.circuit.generation
        = t.breaker.circuit.generation then 0 else 1)
      (log ++ t.noted now event) (t.recentAfter recent now event) := by
  by_cases hsame : (t.step now event).breaker.circuit.generation = t.breaker.circuit.generation
  · have hfound := foundBy_generation_of_same hsame
    obtain ⟨older, hlog, holder⟩ := h.earlier
    rw [if_pos hsame, hsame]
    refine ⟨h.number, older, ?_, holder⟩
    rw [Traffic.recentAfter, if_pos (hsame.trans hfound.symm), Traffic.recentFor, if_pos hfound,
      hlog, List.append_assoc]
  · rw [if_neg hsame] at few ⊢
    rcases step_generation told h few now event with hnext | ⟨hfound, hnext⟩
    · rw [hnext] at hsame
      have hbegun := (foundBy_generation t now event).resolve_left hsame
      refine ⟨by rw [hnext, hbegun, toNat_add_one h.number few], log, ?_, h.known told⟩
      rw [Traffic.recentAfter, if_pos hnext, Traffic.recentFor, if_neg hsame, List.nil_append]
    · have hne : (t.step now event).breaker.circuit.generation
          ≠ (t.foundBy now event).generation := by
        rw [hfound]
        exact hsame
      refine ⟨by rw [hnext, toNat_add_one h.number few], log ++ t.noted now event, ?_, ?_⟩
      · rw [Traffic.recentAfter, if_neg hne, List.append_nil]
      · intro time id g hnote
        rcases List.mem_append.mp hnote with hold | hnew
        · exact h.known told hold
        · rw [generation_of_noted hnew, hfound, h.number]

theorem run_numbered (h : Numbered t.breaker.circuit.generation begun log recent)
    (told : Told t.stages t.breaker.circuit.generation log recent)
    (steps : List (Instant × Event)) (few : begun + t.generationsBegun steps + 1 < 2 ^ 64) :
    Numbered (t.run steps).breaker.circuit.generation (begun + t.generationsBegun steps)
      (log ++ t.log steps) (t.recent recent steps) := by
  induction steps generalizing t log recent begun with
  | nil =>
    rw [Traffic.log, List.append_nil]
    exact h
  | cons s steps ih =>
    rw [Traffic.generationsBegun, ← Nat.add_assoc] at few ⊢
    rw [Traffic.log, ← List.append_assoc]
    exact ih (h.step told s.1 s.2 (by omega)) (told.step s.1 s.2) few

/-- The calls of the generation that an event finds are those let through since it began. -/
theorem Numbered.mem_admittedIn_found (h : Numbered t.breaker.circuit.generation begun log recent)
    (told : Told t.stages t.breaker.circuit.generation log recent)
    (few : begun + (if (t.step now event).breaker.circuit.generation
      = t.breaker.circuit.generation then 0 else 1) + 1 < 2 ^ 64) (id : TaskId) :
    id ∈ admittedIn (t.foundBy now event).generation log
      ↔ id ∈ letThrough (t.recentFor recent now event) := by
  rw [Traffic.recentFor, mem_admittedIn]
  split
  · rename_i hfound
    rw [hfound]
    obtain ⟨older, hlog, holder⟩ := h.earlier
    rw [mem_letThrough]
    constructor
    · rintro ⟨time, hnote⟩
      rw [hlog] at hnote
      rcases List.mem_append.mp hnote with hold | hnew
      · have hle := holder hold
        rw [h.number] at hle
        omega
      · exact ⟨time, _, hnew⟩
    · rintro ⟨time, g, hnote⟩
      rw [← told.own hnote]
      exact ⟨time, told.suffix.subset hnote⟩
  · rename_i hfound
    have hbegun := (foundBy_generation t now event).resolve_left hfound
    rw [if_neg fun hsame => hfound (foundBy_generation_of_same hsame)] at few
    refine iff_of_false ?_ List.not_mem_nil
    rintro ⟨time, hnote⟩
    have hknown := h.known told hnote
    rw [hbegun, toNat_add_one h.number few] at hknown
    omega

theorem Traffic.IsFresh.numbered {began : Instant} (fresh : t.IsFresh began) :
    Numbered t.breaker.circuit.generation 0 [] [] := by
  refine ⟨?_, [], rfl, fun hnote => by cases hnote⟩
  rw [fresh.circuit]
  rfl

end Numbers

/-- A window that a touch finds is not over. -/
theorem lt_expiry_of_found {expiry : Instant} (closed : (t.found now).phase = .closed)
    (h : (t.found now).expiry = some expiry) : now < expiry := by
  rw [Traffic.found] at closed h
  rcases Circuit.refresh_cases t.breaker.settings now t.breaker.circuit with
    ⟨heq, hhalf | hexpired⟩ | ⟨heq, hphase, _⟩ | ⟨heq, _, _⟩
  · rw [heq] at closed
    rw [closed] at hhalf
    cases hhalf
  · rw [heq] at h
    exact (Circuit.isExpired_eq_false_iff _ _).mp hexpired expiry h
  · rw [heq, Circuit.renew_expiry, Circuit.windowEnd] at h
    split at h
    · cases h
    · rename_i hwindow
      rw [← Option.some.inj h]
      exact Nat.lt_add_of_pos_right (Nat.pos_of_ne_zero hwindow)
  · rw [heq] at closed
    cases closed

/-- An outcome makes no circuit half-open. -/
theorem Circuit.count_phase_ne_halfOpen (s : Settings) (now : Instant) (c : Circuit) (success : Bool)
    (h : c.phase ≠ .halfOpen) : (c.count s now success).circuit.phase ≠ .halfOpen := by
  by_cases hopened : c.phase = .opened
  · rw [Circuit.count_opened _ _ _ _ hopened]
    exact h
  · rcases Circuit.count_cases s now c success hopened with heq | ⟨phase, _, hphase, heq⟩
    · rw [heq]
      exact h
    · rw [heq]
      exact hphase

/-! ### The four phase changes -/

section Reasons

variable {log recent : List Note}

theorem mem_changes_trip (told : Told t.stages t.breaker.circuit.generation log recent) :
    (.closed, .opened) ∈ t.changes now event ↔ (t.foundBy now event).phase = .closed ∧
      (∀ expiry, (t.foundBy now event).expiry = some expiry → now < expiry) ∧
      ∃ id success, t.noted now event = [.settled now id success] ∧
        id ∈ admittedIn (t.foundBy now event).generation log ∧
        Circuit.isTripped t.breaker.settings
          ((t.foundBy now event).counts.settled success) = true := by
  rw [mem_changes]
  constructor
  · rintro ⟨_, ⟨hphase, hfound⟩ | ⟨hfound, hafter⟩⟩
    · have hfirst := (foundBy_phase_iff (by rw [hphase]; simp)).mp hfound
      cases hfirst.1
    · obtain ⟨id, success, hnoted, hmem, hcount⟩ :=
        (step_phase_iff told (by rw [hfound]; simp)).mp hafter
      refine ⟨hfound, ?_, id, success, hnoted, hmem,
        (Circuit.count_closed _ _ _ success hfound).mp hcount⟩
      rw [foundBy_of_touches (touches_of_noted hnoted)] at hfound ⊢
      exact fun expiry hexpiry => lt_expiry_of_found hfound hexpiry
  · rintro ⟨hfound, _, id, success, hnoted, hmem, htrips⟩
    refine ⟨by simp, .inr ⟨hfound, ?_⟩⟩
    exact (step_phase_iff told (by rw [hfound]; simp)).mpr
      ⟨id, success, hnoted, hmem, (Circuit.count_closed _ _ _ success hfound).mpr htrips⟩

theorem mem_changes_probe (told : Told t.stages t.breaker.circuit.generation log recent)
    {last : Instant} {ended : Option Instant} (keeps : t.KeepsTime last ended) :
    (.opened, .halfOpen) ∈ t.changes now event ↔ t.breaker.circuit.phase = .opened ∧
      t.touches event = true ∧
        ∃ due ≤ now, (Instant.after? last t.breaker.settings.openFor).or ended = some due := by
  have hexpired : t.breaker.circuit.phase = .opened → (t.breaker.circuit.isExpired now = true ↔
      ∃ due ≤ now, (Instant.after? last t.breaker.settings.openFor).or ended = some due) := by
    intro hphase
    rw [Circuit.isExpired_iff, keeps.2 hphase]
  rw [mem_changes]
  constructor
  · rintro ⟨_, ⟨hphase, hfound⟩ | ⟨hfound, hafter⟩⟩
    · obtain ⟨_, _, htouches, htime⟩ := (foundBy_phase_iff (by rw [hphase]; simp)).mp hfound
      exact ⟨hphase, htouches, (hexpired hphase).mp htime⟩
    · obtain ⟨_, success, _, _, hcount⟩ :=
        (step_phase_iff told (by rw [hfound]; simp)).mp hafter
      exact absurd hcount (Circuit.count_phase_ne_halfOpen _ _ _ success (by rw [hfound]; simp))
  · rintro ⟨hphase, htouches, htime⟩
    exact ⟨by simp, .inl ⟨hphase, (foundBy_phase_iff (by rw [hphase]; simp)).mpr
      ⟨rfl, hphase, htouches, (hexpired hphase).mpr htime⟩⟩⟩

/-- Only an outcome of a trial leads out of a half-open period. -/
theorem mem_changes_halfOpen (told : Told t.stages t.breaker.circuit.generation log recent)
    {after : Phase} (h : after ≠ .halfOpen) :
    (.halfOpen, after) ∈ t.changes now event ↔ (t.foundBy now event).phase = .halfOpen ∧
      ∃ id success, t.noted now event = [.settled now id success] ∧
        id ∈ admittedIn (t.foundBy now event).generation log ∧
        (if success = false then .opened
          else if t.breaker.settings.closeAfter
            ≤ (t.foundBy now event).counts.succeeded.successRun then .closed
          else .halfOpen) = after := by
  rw [mem_changes]
  constructor
  · rintro ⟨_, ⟨hphase, hfound⟩ | ⟨hfound, hafter⟩⟩
    · have hfirst := (foundBy_phase_iff (by rw [hphase]; exact h)).mp hfound
      exact absurd hfirst.1 h
    · obtain ⟨id, success, hnoted, hmem, hcount⟩ :=
        (step_phase_iff told (by rw [hfound]; exact h)).mp hafter
      rw [Circuit.count_halfOpen _ _ success hfound] at hcount
      exact ⟨hfound, id, success, hnoted, hmem, hcount⟩
  · rintro ⟨hfound, id, success, hnoted, hmem, hcount⟩
    refine ⟨h.symm, .inr ⟨hfound, ?_⟩⟩
    rw [← Circuit.count_halfOpen _ now success hfound] at hcount
    exact (step_phase_iff told (by rw [hfound]; exact h)).mpr ⟨id, success, hnoted, hmem, hcount⟩

theorem mem_changes_recover (told : Told t.stages t.breaker.circuit.generation log recent)
    (trials : t.HasTrials log recent) (positive : t.breaker.settings.closeAfter ≠ 0) :
    let calls := admittedIn (t.foundBy now event).generation log
    let outcomes := outcomesOf calls (t.recentFor recent now event)
    (.halfOpen, .closed) ∈ t.changes now event ↔ (t.foundBy now event).phase = .halfOpen ∧
      false ∉ outcomes ∧ ∃ id, t.noted now event = [.settled now id true] ∧ id ∈ calls ∧
        outcomes.count true + 1 = t.breaker.settings.closeAfter.toNat := by
  intro calls outcomes
  rw [mem_changes_halfOpen told (by simp)]
  constructor
  · rintro ⟨hfound, id, success, hnoted, hmem, hafter⟩
    have found := trials.found positive hfound
    cases success with
    | false => cases hafter
    | true =>
      rw [if_neg (by simp)] at hafter
      split at hafter
      · rename_i hclose
        exact ⟨hfound, found.unfailed, id, hnoted, hmem, found.closes_iff.mp hclose⟩
      · cases hafter
  · rintro ⟨hfound, _, id, hnoted, hmem, hcount⟩
    refine ⟨hfound, id, true, hnoted, hmem, ?_⟩
    rw [if_neg (by simp), if_pos ((trials.found positive hfound).closes_iff.mpr hcount)]

theorem mem_changes_relapse (told : Told t.stages t.breaker.circuit.generation log recent)
    (trials : t.HasTrials log recent) (positive : t.breaker.settings.closeAfter ≠ 0) :
    let calls := admittedIn (t.foundBy now event).generation log
    (.halfOpen, .opened) ∈ t.changes now event ↔ (t.foundBy now event).phase = .halfOpen ∧
      false ∉ outcomesOf calls (t.recentFor recent now event) ∧
      ∃ id, t.noted now event = [.settled now id false] ∧ id ∈ calls := by
  intro calls
  rw [mem_changes_halfOpen told (by simp)]
  constructor
  · rintro ⟨hfound, id, success, hnoted, hmem, hafter⟩
    cases success with
    | false => exact ⟨hfound, (trials.found positive hfound).unfailed, id, hnoted, hmem⟩
    | true =>
      rw [if_neg (by simp)] at hafter
      split at hafter <;> cases hafter
  · rintro ⟨hfound, _, id, hnoted, hmem⟩
    exact ⟨hfound, id, false, hnoted, hmem, if_pos rfl⟩

/-- There are no other phase changes. -/
theorem not_mem_changes (told : Told t.stages t.breaker.circuit.generation log recent)
    {before after : Phase} (h : (before, after) ∈ t.changes now event) :
    (before = .closed ∧ after = .opened) ∨ (before = .opened ∧ after = .halfOpen) ∨
      before = .halfOpen := by
  rw [mem_changes] at h
  obtain ⟨hne, ⟨hphase, hfound⟩ | ⟨hfound, hafter⟩⟩ := h
  · have hfirst := (foundBy_phase_iff (by rw [hphase]; exact hne.symm)).mp hfound
    exact .inr (.inl ⟨hphase.symm.trans hfirst.2.1, hfirst.1⟩)
  · obtain ⟨_, success, _, _, hcount⟩ :=
      (step_phase_iff told (by rw [hfound]; exact hne.symm)).mp hafter
    cases before with
    | halfOpen => exact .inr (.inr rfl)
    | opened =>
      rw [Circuit.count_opened _ _ _ _ hfound, hfound] at hcount
      exact absurd hcount hne
    | closed =>
      have hhalf := Circuit.count_phase_ne_halfOpen t.breaker.settings now _ success
        (by rw [hfound]; simp)
      cases after with
      | closed => exact absurd rfl hne
      | opened => exact .inl ⟨rfl, rfl⟩
      | halfOpen => exact absurd hcount hhalf

end Reasons

/-- **The phase changes of a run are those that are due.**  However calls overlap and end: at each event of
a run, and for each pair of phases, the circuit goes from one to the other exactly if that is due.  The
changes at an event lead from the phase before it to the phase after it.  As long as the numbers of
generations do not come round, the calls of a generation are those let through since it began. -/
theorem changes_iff_isDue {t : Traffic} {began : Instant} (fresh : t.IsFresh began)
    (valid : t.breaker.settings.validate = .ok ()) (steps : List (Instant × Event)) (now : Instant)
    (event : Event) :
    let here := t.run steps
    (∀ before after, (before, after) ∈ here.changes now event ↔
      IsDue t began steps now event before after) ∧
    Leads (here.step now event).breaker.circuit.phase here.breaker.circuit.phase
      (here.changes now event) ∧
    (t.generationsBegun (steps ++ [(now, event)]) + 1 < 2 ^ 64 →
      ∀ id, id ∈ admittedIn (here.foundBy now event).generation (t.log steps) ↔
        id ∈ letThrough (here.recentFor (t.recent [] steps) now event)) := by
  intro here
  have positive : t.breaker.settings.closeAfter ≠ 0 := (Settings.validate_eq_ok.mp valid).2.2.1
  obtain ⟨told, trials⟩ := run_trials fresh.told fresh.hasTrials positive steps
  rw [List.nil_append] at told trials
  have keeps := fresh.keepsTime.run steps
  have settings : here.breaker.settings = t.breaker.settings := run_settings t steps
  refine ⟨fun before after => ?_, leads_changes here now event, fun few id => ?_⟩
  · cases before with
    | closed =>
      cases after with
      | opened =>
        rw [mem_changes_trip told, settings]
        simp only [IsDue, Circuit.isTripped, Bool.and_eq_true, decide_eq_true_eq, ge_iff_le]
      | closed | halfOpen =>
        refine iff_of_false (fun h => ?_) id
        rcases not_mem_changes told h with ⟨_, h⟩ | ⟨h, _⟩ | h <;> cases h
    | opened =>
      cases after with
      | halfOpen =>
        rw [mem_changes_probe told keeps, settings]
        rfl
      | closed | opened =>
        refine iff_of_false (fun h => ?_) id
        rcases not_mem_changes told h with ⟨h, _⟩ | ⟨_, h⟩ | h <;> cases h
    | halfOpen =>
      cases after with
      | halfOpen => exact iff_of_false (fun h => (mem_changes.mp h).1 rfl) id
      | closed =>
        refine (mem_changes_recover told trials (by rw [settings]; exact positive)).trans ?_
        rw [settings]
        rfl
      | opened =>
        exact mem_changes_relapse told trials (by rw [settings]; exact positive)
  · rw [generationsBegun_append] at few
    have numbered := run_numbered fresh.numbered fresh.told steps (by omega)
    rw [List.nil_append, Nat.zero_add] at numbered
    exact numbered.mem_admittedIn_found told few id

/-- One failed call opens the circuit.  When its time is over a call makes it half-open; two trials overlap,
the second succeeds first, and then either the first succeeds too or it is dropped. -/
theorem changes_iff_isDue_through_recovery :
    let t := Traffic.start { trialLimit := 2, closeAfter := 2, openFor := 10, minRequests := 1 } 0
    let trip : List (Instant × Event) := [(1, .call 0 none)]
    let probe : List (Instant × Event) := trip ++ [(2, .drop 0)]
    let trials : List (Instant × Event) :=
      probe ++ [(12, .call 1 none), (12, .call 2 none), (13, .settle 2 (.ok ()))]
    t.breaker.settings.validate = .ok () ∧
      IsDue t 0 trip 2 (.drop 0) .closed .opened ∧
      IsDue t 0 probe 12 (.call 1 none) .opened .halfOpen ∧
      IsDue t 0 trials 14 (.settle 1 (.ok ())) .halfOpen .closed ∧
      IsDue t 0 trials 14 (.drop 1) .halfOpen .opened := by
  intro t trip probe trials
  have fresh : t.IsFresh 0 := ⟨rfl, fun _ => rfl⟩
  have valid : t.breaker.settings.validate = .ok () :=
    Settings.validate_eq_ok.mpr (by decide +kernel)
  have due := fun steps now event before after =>
    ((changes_iff_isDue fresh valid steps now event).1 before after).mp
  exact ⟨valid, due trip _ _ _ _ (by decide +kernel), due probe _ _ _ _ (by decide +kernel),
    due trials _ _ _ _ (by decide +kernel), due trials _ _ _ _ (by decide +kernel)⟩

/-- A circuit is to stay open for the longest time there is.  The clock cannot tell when that is over, and a
look makes the circuit half-open when the window is over in which it opened. -/
theorem probed_before_time :
    let settings : Settings := { openFor := Duration.longest, window := 10, minRequests := 1 }
    let t := Traffic.start settings 0
    let trip : List (Instant × Event) :=
      [(1, .call 0 none), (1, .settle 0 (.error (.unavailable "down")))]
    t.IsFresh 0 ∧ settings.validate = .ok () ∧ t.lastChange 0 trip = 1 ∧
      (.opened, .halfOpen) ∈ (t.run trip).changes 10 .observe ∧ ¬ 1 + settings.openFor ≤ 10 := by
  intro settings t trip
  exact ⟨⟨rfl, fun _ => rfl⟩, Settings.validate_eq_ok.mpr (by decide +kernel), by decide +kernel,
    by decide +kernel, by decide +kernel⟩

end ProfileGuard.Breaker
