import ProfileGuard.Proofs.Breaker.Moves

/-!
# Which calls a breaker lets through

An open circuit refuses every call until its time is over, and a half-open one lets a limited number of
trials through, however calls overlap and whenever they end.

* **`Breaker.Move.breaker_while_opened`** — before its time is over, nothing moves an open circuit.
* **`Breaker.Move.trialsTaken`** — a half-open circuit counts its trials, and the limit holds.
* **`Breaker.admission_isSafe`** — what callers may rely on; **`Breaker.call_passes_before_time`** — and what not,
  where the clock cannot tell when the time of an open circuit is over.
-/

namespace ProfileGuard.Breaker

variable {now : Instant} {t later : Traffic} {notes : List Note}

/-! ### An open circuit -/

/-- The circuit opens in a step; it may have been open before, in an earlier generation. -/
def Opens (t : Traffic) (now : Instant) (event : Event) : Prop :=
  (t.step now event).breaker.circuit.phase = .opened ∧
    (t.breaker.circuit.phase ≠ .opened ∨
      (t.step now event).breaker.circuit.generation ≠ t.breaker.circuit.generation)

/-- When a circuit that opens at an instant is to become half-open, if ever: after the time set for it,
or, where the clock cannot tell that instant, at the end of the generation that is found. -/
def Traffic.openUntil? (t : Traffic) (now : Instant) : Option Instant :=
  (Instant.after? now t.breaker.settings.openFor).or (t.found now).expiry

/-- A circuit that opens has its end. -/
theorem Move.expiry_of_opens (move : Move now t notes later)
    (opened : later.breaker.circuit.phase = .opened)
    (fresh : t.breaker.circuit.phase ≠ .opened ∨
      later.breaker.circuit.generation ≠ t.breaker.circuit.generation) :
    later.breaker.circuit.expiry = t.openUntil? now := by
  -- a circuit that is found open is the old one in its old generation
  have notFound : (t.found now).phase = .opened →
      later.breaker.circuit.generation = (t.found now).generation → False := by
    intro hphase hgeneration
    obtain ⟨heq, hopened⟩ := found_opened hphase
    rw [heq] at hgeneration
    rcases fresh with hne | hne
    · exact hne hopened
    · exact hne hgeneration
  cases move with
  | stay =>
    rcases fresh with hne | hne
    · exact absurd opened hne
    · exact absurd rfl hne
  | look => exact (notFound opened rfl).elim
  | pass id limit idle free =>
    rw [(acquire_free t now free).1] at opened
    exact (Circuit.phase_ne_opened_of_free free opened).elim
  | refuse id refusal => exact (notFound opened rfl).elim
  | settle id flight success stage =>
    change (t.breaker.record now flight.generation success).circuit.phase = .opened at opened
    show (t.breaker.record now flight.generation success).circuit.expiry = _
    rcases record_cases t now flight.generation success with
      ⟨h, _⟩ | ⟨_, hphase, h | ⟨phase, _, _, h⟩⟩
    · rw [h] at opened
      exact (notFound opened (by simp [Traffic.finish, h])).elim
    · rw [h] at opened
      exact absurd opened hphase
    · rw [h] at opened ⊢
      have hopened : phase = .opened := opened
      rw [Circuit.renew_expiry, hopened, Circuit.expiryIn?_opened, Traffic.openUntil?]

theorem apply_same (b : Breaker) : b.apply { circuit := b.circuit } = b := by
  simp [apply, alertFor]

/-- **Before its time is over, nothing moves an open circuit.** -/
theorem Move.breaker_while_opened (move : Move now t notes later)
    (opened : t.breaker.circuit.phase = .opened)
    (before : t.breaker.circuit.isExpired now = false) : later.breaker = t.breaker := by
  have hrefresh := Circuit.refresh_before t.breaker.settings now t.breaker.circuit before
  have hfound : t.found now = t.breaker.circuit := by rw [Traffic.found, hrefresh]
  cases move with
  | stay => rfl
  | look =>
    show t.breaker.apply (t.breaker.circuit.refresh t.breaker.settings now) = t.breaker
    rw [hrefresh, apply_same]
  | pass id limit idle free =>
    rw [hfound] at free
    exact (Circuit.phase_ne_opened_of_free free opened).elim
  | refuse id refusal =>
    show { t.breaker with circuit := t.found now } = t.breaker
    rw [hfound]
  | settle id flight success stage =>
    show t.breaker.apply (t.breaker.circuit.settle t.breaker.settings now flight.generation success)
      = t.breaker
    have hsettle : t.breaker.circuit.settle t.breaker.settings now flight.generation success
        = { circuit := t.breaker.circuit } := by
      simp only [Circuit.settle, hrefresh, Circuit.count_opened _ _ _ _ opened]
      split <;> rfl
    rw [hsettle, apply_same]

theorem run_while_opened (opened : t.breaker.circuit.phase = .opened)
    {steps : List (Instant × Event)}
    (before : ∀ s ∈ steps, t.breaker.circuit.isExpired s.1 = false) :
    (t.run steps).breaker = t.breaker := by
  induction steps generalizing t with
  | nil => rfl
  | cons s steps ih =>
    have hstep := (step_move s.1 t s.2).breaker_while_opened opened (before s (by simp))
    rw [run_cons, ih (by rw [hstep]; exact opened)
      fun s' hs' => by rw [hstep]; exact before s' (by simp [hs']), hstep]

/-- A call to an open circuit is refused, and nothing else happens. -/
theorem call_while_opened (opened : t.breaker.circuit.phase = .opened)
    (before : t.breaker.circuit.isExpired now = false) {id : TaskId} (limit : Option Duration)
    (idle : t.stages id = .idle) :
    t.step now (.call id limit)
      = { t with stages := t.stages.set id (.finished (.error (.opened t.name))) } := by
  have hfound : t.found now = t.breaker.circuit := by
    rw [Traffic.found, Circuit.refresh_before _ _ _ before]
  have hrefused : (t.found now).refusal? t.breaker.settings = some .opened :=
    Circuit.refusal_opened (by rw [hfound]; exact opened)
  rw [step_call now limit idle, call_refused t now id limit hrefused, hfound]
  rfl

/-! ### A half-open circuit -/

/-- How many trials a circuit has let through; none unless it is half-open. -/
def trialsTaken (c : Circuit) : Nat :=
  if c.phase = .halfOpen then c.counts.requests.toNat else 0

/-- A circuit that is found half-open still counts the trials of its period. -/
theorem found_trials (h : (t.found now).phase = .halfOpen) :
    (t.found now).counts.requests.toNat = trialsTaken t.breaker.circuit := by
  unfold trialsTaken
  split
  · rename_i hphase
    rw [Traffic.found, Circuit.refresh_halfOpen _ _ _ hphase]
  · rename_i hphase
    rw [Traffic.found, Circuit.refresh_to_halfOpen _ _ _ h hphase]
    rfl

/-- **A half-open circuit counts its trials**, and lets none through beyond its limit. -/
theorem Move.trialsTaken (move : Move now t notes later)
    (halfOpen : later.breaker.circuit.phase = .halfOpen)
    (within : trialsTaken t.breaker.circuit ≤ t.breaker.settings.trialLimit.toNat) :
    Breaker.trialsTaken later.breaker.circuit
        = Breaker.trialsTaken t.breaker.circuit + notes.countP Note.isAdmission ∧
      Breaker.trialsTaken later.breaker.circuit ≤ t.breaker.settings.trialLimit.toNat := by
  have same : ∀ {c : Circuit}, c.phase = .halfOpen → (t.found now).phase = .halfOpen →
      c.counts.requests = (t.found now).counts.requests →
      Breaker.trialsTaken c = Breaker.trialsTaken t.breaker.circuit := by
    intro c hphase hfound hrequests
    rw [Breaker.trialsTaken, if_pos hphase, hrequests, found_trials hfound]
  cases move with
  | stay => exact ⟨rfl, within⟩
  | look =>
    have h := same halfOpen halfOpen rfl
    exact ⟨h, h ▸ within⟩
  | refuse id refusal =>
    have h := same halfOpen halfOpen rfl
    exact ⟨h, h ▸ within⟩
  | pass id limit idle free =>
    have hcircuit := (acquire_free t now free).1
    have hfound : (t.found now).phase = .halfOpen := by
      rw [hcircuit] at halfOpen
      exact halfOpen
    have hlt : (t.found now).counts.requests.toNat < t.breaker.settings.trialLimit.toNat := by
      rw [refusal_halfOpen hfound] at free
      by_contra hge
      rw [if_neg hge] at free
      cases free
    have htaken : Breaker.trialsTaken (t.breaker.acquire now).1.circuit
        = Breaker.trialsTaken t.breaker.circuit + 1 := by
      rw [hcircuit, Breaker.trialsTaken, if_pos hfound, ← found_trials hfound]
      have hlimit := t.breaker.settings.trialLimit.toNat_lt
      exact toNat_raise (by omega)
    rw [found_trials hfound] at hlt
    exact ⟨htaken, htaken ▸ hlt⟩
  | settle id flight success stage =>
    change (t.breaker.record now flight.generation success).circuit.phase = .halfOpen at halfOpen
    have h : Breaker.trialsTaken (t.breaker.record now flight.generation success).circuit
        = Breaker.trialsTaken t.breaker.circuit := by
      rcases record_cases t now flight.generation success with
        ⟨h, _⟩ | ⟨_, _, h | ⟨phase, _, hphase, h⟩⟩
      · rw [h] at halfOpen ⊢
        exact same halfOpen halfOpen rfl
      · rw [h] at halfOpen ⊢
        refine same halfOpen halfOpen ?_
        cases success <;> rfl
      · rw [h] at halfOpen
        exact absurd halfOpen hphase
    exact ⟨h, h ▸ within⟩

/-- The trials of a half-open period, counted from its beginning. -/
theorem run_trialsTaken {period : List (Instant × Event)}
    (halfOpen : ∀ part, part <+: period → part ≠ [] →
      (t.run part).breaker.circuit.phase = .halfOpen)
    (within : trialsTaken t.breaker.circuit ≤ t.breaker.settings.trialLimit.toNat) :
    trialsTaken (t.run period).breaker.circuit
        = trialsTaken t.breaker.circuit + (t.log period).countP Note.isAdmission ∧
      trialsTaken (t.run period).breaker.circuit ≤ t.breaker.settings.trialLimit.toNat := by
  induction period generalizing t with
  | nil => exact ⟨rfl, within⟩
  | cons s period ih =>
    have move := step_move s.1 t s.2
    obtain ⟨htaken, hwithin⟩ := move.trialsTaken (halfOpen [s] (by simp) (by simp)) within
    have hrest := ih (t := t.step s.1 s.2)
      (fun part hpart _ => halfOpen (s :: part) (by simpa using hpart) (by simp))
      (by rw [move.settings]; exact hwithin)
    rw [move.settings, htaken] at hrest
    rw [run_cons, Traffic.log, List.countP_append, ← Nat.add_assoc]
    exact hrest

/-- A call to a half-open circuit takes a trial, if one is left. -/
theorem call_halfOpen {id : TaskId} {limit : Option Duration} (idle : t.stages id = .idle)
    (halfOpen : (t.step now (.call id limit)).breaker.circuit.phase = .halfOpen) :
    (t.step now (.call id limit)).stages id
      = if trialsTaken t.breaker.circuit < t.breaker.settings.trialLimit.toNat then
          .inFlight ⟨(t.found now).generation, now, limit⟩
        else .finished (.error (.tooManyRequests t.name)) := by
  rw [step_call now limit idle] at halfOpen ⊢
  cases hrefusal : (t.found now).refusal? t.breaker.settings with
  | none =>
    have hcall := call_free t now id limit hrefusal
    rw [hcall] at halfOpen ⊢
    have hfound : (t.found now).phase = .halfOpen := by
      rw [(acquire_free t now hrefusal).1] at halfOpen
      exact halfOpen
    rw [refusal_halfOpen hfound, found_trials hfound] at hrefusal
    split at hrefusal
    · rename_i hlt
      rw [if_pos hlt]
      exact Tasks.set_self _ _ _
    · cases hrefusal
  | some refusal =>
    have hcall := call_refused t now id limit hrefusal
    rw [hcall] at halfOpen ⊢
    have hfound : (t.found now).phase = .halfOpen := halfOpen
    rw [refusal_halfOpen hfound, found_trials hfound] at hrefusal
    split at hrefusal
    · cases hrefusal
    · rename_i hge
      rw [if_neg hge, ← Option.some.inj hrefusal]
      exact Tasks.set_self _ _ _

/-! ### Refused calls -/

/-- A call is let through, or it is refused and the counts stay as they are. -/
theorem call_cases (blank : BlankWhileOpened t) {id : TaskId} (limit : Option Duration)
    (idle : t.stages id = .idle) :
    (∃ flight, (t.step now (.call id limit)).stages id = .inFlight flight) ∨
      ∃ refusal : Refusal, (t.step now (.call id limit)).stages id
          = .finished (.error (refusal.toCallError t.name)) ∧
        (t.step now (.call id limit)).breaker.circuit.counts = t.breaker.circuit.counts := by
  rw [step_call now limit idle]
  cases hrefusal : (t.found now).refusal? t.breaker.settings with
  | none =>
    rw [call_free t now id limit hrefusal]
    exact .inl ⟨_, Tasks.set_self _ _ _⟩
  | some refusal =>
    rw [call_refused t now id limit hrefusal]
    refine .inr ⟨refusal, Tasks.set_self _ _ _, ?_⟩
    show (t.found now).counts = t.breaker.circuit.counts
    rcases Circuit.refresh_cases t.breaker.settings now t.breaker.circuit with
      ⟨heq, _⟩ | ⟨heq, hphase, _⟩ | ⟨heq, hphase, _⟩
    · rw [Traffic.found, heq]
    · rw [Traffic.found, heq] at hrefusal
      simp [Circuit.refusal?, hphase] at hrefusal
    · rw [Traffic.found, heq, blank hphase]
      rfl

/-! ### What callers may rely on -/

theorem InOrder.le_last {began last : Instant} {event : Event} {steps : List (Instant × Event)}
    (inOrder : InOrder began (steps ++ [(last, event)])) : ∀ s ∈ steps, s.1 ≤ last := by
  intro s hs
  rw [InOrder, List.pairwise_cons, List.map_append, List.pairwise_append] at inOrder
  exact inOrder.2.2.2 s.1 (List.mem_map_of_mem hs) last (by simp)

/-- A call after the circuit opened and before its time is over is refused, and nothing else happens. -/
theorem call_after_opens {began : Instant} (before during : List (Instant × Event))
    (opening : Instant × Event) {id : TaskId} {limit : Option Duration}
    (inOrder : InOrder began (before ++ opening :: (during ++ [(now, .call id limit)])))
    (opens : Opens (t.run before) opening.1 opening.2)
    (early : ∀ due, (t.run before).openUntil? opening.1 = some due → now < due)
    (idle : (t.run (before ++ opening :: during)).stages id = .idle) :
    (t.run (before ++ opening :: during)).step now (.call id limit)
      = { t.run (before ++ opening :: during) with
          stages := (t.run (before ++ opening :: during)).stages.set id
            (.finished (.error (.opened t.name))) } := by
  have hexpiry := (step_move opening.1 (t.run before) opening.2).expiry_of_opens opens.1 opens.2
  have hearly : ∀ time ≤ now, ((t.run before).step opening.1 opening.2).breaker.circuit.isExpired time
      = false := by
    intro time htime
    refine (Circuit.isExpired_eq_false_iff _ _).mpr fun due hdue => ?_
    exact htime.trans_lt (early due (hexpiry ▸ hdue))
  have hlast : ∀ s ∈ during, s.1 ≤ now := by
    have hassoc : before ++ opening :: (during ++ [(now, .call id limit)])
        = (before ++ opening :: during) ++ [(now, .call id limit)] := by simp
    rw [hassoc] at inOrder
    exact fun s hs => inOrder.le_last s (by simp [hs])
  have hrun : t.run (before ++ opening :: during)
      = ((t.run before).step opening.1 opening.2).run during := by rw [run_append, run_cons]
  have hbreaker := run_while_opened opens.1 fun s hs => hearly s.1 (hlast s hs)
  rw [← hrun] at hbreaker
  rw [call_while_opened (by rw [hbreaker]; exact opens.1)
    (by rw [hbreaker]; exact hearly now (Nat.le_refl _)) limit idle, run_name]

/-- **Which calls a breaker lets through.**  However calls overlap and end: from the moment the circuit
opens, and until its time is over, each call is refused as such and nothing else happens.  Where the clock
cannot tell when that time is over, the end of the generation before stands in for it.  While the
circuit is half-open, no more operations are started than its limit says; a call starts one exactly if
one is left, and is told so otherwise.  A refused call leaves the counts as they are. -/
theorem admission_isSafe {t : Traffic} {began : Instant} (fresh : t.IsFresh began) :
    (∀ before opening during now id limit,
      InOrder began (before ++ opening :: (during ++ [(now, .call id limit)])) →
      Opens (t.run before) opening.1 opening.2 →
      (∀ due, (t.run before).openUntil? opening.1 = some due → now < due) →
      let here := t.run (before ++ opening :: during)
      here.stages id = .idle →
      here.step now (.call id limit)
        = { here with stages := here.stages.set id (.finished (.error (.opened t.name))) }) ∧
    (∀ before period,
      (t.run before).breaker.circuit.phase ≠ .halfOpen →
      (∀ part, part <+: period → part ≠ [] →
        ((t.run before).run part).breaker.circuit.phase = .halfOpen) →
      let started := fun part => ((t.run before).log part).countP Note.isAdmission
      let limit := t.breaker.settings.trialLimit.toNat
      started period ≤ limit ∧
      ∀ part now id deadline, part ++ [(now, .call id deadline)] <+: period →
        let here := (t.run before).run part
        here.stages id = .idle →
        let later := here.step now (.call id deadline)
        (started part < limit → later.isInFlight id = true) ∧
        (limit ≤ started part →
          later.stages id = .finished (.error (.tooManyRequests t.name)))) ∧
    (∀ steps now id limit,
      let here := t.run steps
      here.stages id = .idle →
      let later := here.step now (.call id limit)
      later.isInFlight id = true ∨
        (∃ refusal : Refusal, later.stages id = .finished (.error (refusal.toCallError t.name))) ∧
          later.breaker.circuit.counts = here.breaker.circuit.counts) := by
  refine ⟨?_, ?_, ?_⟩
  · intro before opening during now id limit inOrder opens early here idle
    exact call_after_opens before during opening inOrder opens early idle
  · intro before period hclosed halfOpen started limit
    have hnone : trialsTaken (t.run before).breaker.circuit = 0 := if_neg hclosed
    have htrials : ∀ part, part <+: period →
        trialsTaken ((t.run before).run part).breaker.circuit = started part ∧
          started part ≤ limit := by
      intro part hpart
      obtain ⟨htaken, hwithin⟩ := run_trialsTaken (t := t.run before)
        (fun p hp => halfOpen p (hp.trans hpart)) (by rw [hnone]; exact Nat.zero_le _)
      rw [hnone, Nat.zero_add] at htaken
      rw [htaken, run_settings] at hwithin
      exact ⟨htaken, hwithin⟩
    refine ⟨(htrials period (List.prefix_refl _)).2, ?_⟩
    intro part now id deadline hpart here idle later
    have hphase : later.breaker.circuit.phase = .halfOpen := by
      have h := halfOpen _ hpart (by simp)
      rwa [run_append] at h
    have hcall := call_halfOpen idle hphase
    rw [(htrials part ((List.prefix_append _ _).trans hpart)).1, run_settings, run_settings] at hcall
    constructor
    · intro hlt
      show (later.stages id).isInFlight = true
      rw [hcall, if_pos hlt]
      rfl
    · intro hge
      rw [hcall, if_neg (by omega), run_name, run_name]
  · intro steps now id limit here idle later
    rcases call_cases (fresh.run_blankWhileOpened steps) limit idle with
      ⟨flight, hflight⟩ | ⟨refusal, hrefusal, hcounts⟩
    · left
      show (later.stages id).isInFlight = true
      rw [hflight]
      rfl
    · right
      rw [run_name] at hrefusal
      exact ⟨⟨refusal, hrefusal⟩, hcounts⟩

/-- One failed call opens the circuit.  A call is refused in the last instant before its time is over; then
a trial is let through and another call is not. -/
theorem admission_isSafe_through_recovery :
    let t := Traffic.start { trialLimit := 1, closeAfter := 1, openFor := 10, minRequests := 1 } 0
    let opened := t.run [(1, .call 0 none), (2, .drop 0)]
    Opens (t.run [(1, .call 0 none)]) 2 (.drop 0) ∧
      (opened.run [(3, .observe)]).step 11 (.call 1 none)
        = { opened.run [(3, .observe)] with
            stages := opened.stages.set 1 (.finished (.error (.opened "default"))) } ∧
      (opened.log [(12, .call 2 none), (12, .call 3 none)]).countP Note.isAdmission ≤ 1 ∧
      ((opened.run [(12, .call 2 none)]).step 12 (.call 3 none)).stages 3
        = .finished (.error (.tooManyRequests "default")) ∧
      ((opened.run [(12, .call 2 none)]).step 12 (.call 3 none)).isInFlight 3 = false := by
  intro t opened
  have fresh : t.IsFresh 0 := ⟨rfl, fun _ => rfl⟩
  have opens : Opens (t.run [(1, .call 0 none)]) 2 (.drop 0) :=
    ⟨by decide +kernel, .inl (by decide +kernel)⟩
  have halfOpen : ∀ part, part <+: [(12, .call 2 none), (12, .call 3 none)] → part ≠ [] →
      (opened.run part).breaker.circuit.phase = .halfOpen := by
    intro part hpart hne
    rcases List.prefix_cons_iff.mp hpart with rfl | ⟨rest, rfl, hrest⟩
    · exact absurd rfl hne
    · rcases List.prefix_cons_iff.mp hrest with rfl | ⟨last, rfl, hlast⟩
      · decide +kernel
      · rw [List.prefix_nil.mp hlast]
        decide +kernel
  obtain ⟨whileOpened, trials, -⟩ := admission_isSafe fresh
  have period := trials [(1, .call 0 none), (2, .drop 0)] [(12, .call 2 none), (12, .call 3 none)]
    (by decide +kernel) halfOpen
  have second := (period.2 [(12, .call 2 none)] 12 3 none (List.prefix_refl _)
    (run_stages_other (t := opened) (by decide))).2 (by decide +kernel)
  refine ⟨opens, ?_, period.1, second, ?_⟩
  · exact whileOpened [(1, .call 0 none)] (2, .drop 0) [(3, .observe)] 11 1 none
      (by decide +kernel) opens (by decide +kernel) (run_stages_other (t := t) (by decide))
  · rw [Traffic.isInFlight, second]
    rfl

/-- A circuit is to stay open for the longest time there is.  The clock cannot tell when that is over, and the
circuit lets a call through when the window is over in which it opened. -/
theorem call_passes_before_time :
    let settings : Settings := { openFor := Duration.longest, window := 10, minRequests := 1 }
    let t := Traffic.start settings 0
    let failure : Event := .settle 0 (.error (.unavailable "down"))
    t.IsFresh 0 ∧ settings.validate = .ok () ∧
      InOrder 0 ([(1, .call 0 none)] ++ (1, failure) :: ([] ++ [(10, .call 1 none)])) ∧
      Opens (t.run [(1, .call 0 none)]) 1 failure ∧ 10 < 1 + settings.openFor ∧
      ((t.run [(1, .call 0 none), (1, failure)]).step 10 (.call 1 none)).isInFlight 1 = true := by
  intro settings t failure
  exact ⟨⟨rfl, fun _ => rfl⟩, Settings.validate_eq_ok.mpr (by decide +kernel), by decide +kernel,
    ⟨by decide +kernel, .inl (by decide +kernel)⟩, by decide +kernel, by decide +kernel⟩

end ProfileGuard.Breaker
