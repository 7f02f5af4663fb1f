import ProfileGuard.Proofs.Breaker.History

/-!
# The moves of a breaker

Whoever touches a breaker first lets the time that has passed act on the circuit, and then does one
thing to the circuit it finds.  A move names what a step needs and gives the breaker, the stages and the
notes it leads to; proofs about runs go by these moves and never open `step` again.

* **`Breaker.Circuit.refresh_cases`** / **`Breaker.Circuit.count_cases`** — what time and what an outcome
  do to a circuit.
* **`Breaker.Traffic.found`** — the circuit as a touch finds it.
* **`Breaker.Move`** / **`Breaker.step_move`** — every step is a move.
-/

namespace ProfileGuard.Breaker

/-! ### Settings that pass their check -/

theorem Settings.validate_eq_ok {s : Settings} : s.validate = .ok () ↔
    s.name ≠ "" ∧ s.trialLimit ≠ 0 ∧ s.closeAfter ≠ 0 ∧ s.closeAfter ≤ s.trialLimit ∧
      s.tripRatio.value > 0 ∧ s.tripRatio.value ≤ 1 := by
  have herror : ∀ e : Failure, (Except.error e : Except Failure Unit) ≠ .ok () := nofun
  unfold Settings.validate
  by_cases hname : s.name = ""
  · simp [hname]
  by_cases htrials : s.trialLimit = 0
  · simp [hname, htrials]
  by_cases hclose : s.closeAfter = 0 ∨ s.closeAfter > s.trialLimit
  · rw [if_neg hname, if_neg htrials, if_pos hclose]
    refine iff_of_false (herror _) fun ⟨_, _, hpositive, hle, _⟩ => ?_
    exact hclose.elim hpositive (UInt32.not_lt.mpr hle)
  · rw [if_neg hname, if_neg htrials, if_neg hclose]
    rw [not_or, gt_iff_lt, UInt32.not_lt] at hclose
    split
    · rename_i hratio
      exact iff_of_true rfl ⟨hname, htrials, hclose.1, hclose.2, hratio⟩
    · rename_i hratio
      exact iff_of_false (herror _) fun h => hratio h.2.2.2.2

/-! ### Counting -/

theorem toNat_raise {n : UInt32} (h : n.toNat + 1 < 2 ^ 32) : (raise n).toNat = n.toNat + 1 := by
  have hsum : (n + 1).toNat = n.toNat + 1 := by
    rw [UInt32.toNat_add]
    exact Nat.mod_eq_of_lt h
  have hne : n + 1 ≠ 0 := by
    intro h0
    rw [h0] at hsum
    simp at hsum
  rw [raise, if_neg hne, hsum]

/-- The number of a new generation is not that of the last one, nor of the one before. -/
theorem generation_add_one_ne (g : UInt64) : g + 1 ≠ g ∧ g + 1 + 1 ≠ g := by
  constructor
  · intro h
    have := congrArg UInt64.toNat h
    have := g.toNat_lt
    simp only [UInt64.toNat_add, UInt64.reduceToNat] at *
    omega
  · intro h
    have := congrArg UInt64.toNat h
    have := g.toNat_lt
    simp only [UInt64.toNat_add, UInt64.reduceToNat] at *
    omega

/-! ### What happens to a circuit -/

namespace Circuit

variable (s : Settings) (now : Instant) (c : Circuit)

@[simp]
theorem renew_phase (expiry : Option Instant) : (c.renew expiry).phase = c.phase := rfl

@[simp]
theorem renew_expiry (expiry : Option Instant) : (c.renew expiry).expiry = expiry := rfl

/-- A circuit that enters a phase keeps its old expiry if the clock cannot tell when the phase ends. -/
theorem enter_circuit (phase : Phase) :
    (c.enter s now phase).circuit
      = renew ((expiryIn? s now phase).getD c.expiry) { c with phase, since := now } := by
  unfold enter
  cases expiryIn? s now phase <;> rfl

@[simp]
theorem enter_phase (phase : Phase) : (c.enter s now phase).circuit.phase = phase := by
  rw [enter_circuit, renew_phase]

/-- Whether the clock can tell, at an instant, when a phase ends that is entered then. -/
def tellsEnd (phase : Phase) : Bool := (expiryIn? s now phase).isSome

/-- Entering a phase is reported, or else it breaks off. -/
theorem enter_reported (phase : Phase) :
    (c.enter s now phase).entered = (if tellsEnd s now phase then some phase else none) ∧
      (c.enter s now phase).brokeOff = !tellsEnd s now phase := by
  unfold enter tellsEnd
  cases expiryIn? s now phase <;> simp

theorem expiryIn?_opened (expiry : Option Instant) :
    (expiryIn? s now .opened).getD expiry = (Instant.after? now s.openFor).or expiry := by
  rw [expiryIn?]
  cases Instant.after? now s.openFor <;> rfl

/-- A circuit that closes for a window ends with it, unless the window lasts longer than the clock. -/
theorem expiryIn?_closed {s : Settings} {now : Instant} (hwindow : s.window ≠ 0)
    (expiry : Option Instant) : (expiryIn? s now .closed).getD expiry = some (now + s.window) ∨
      Instant.last < now + s.window := by
  rw [expiryIn?, if_neg hwindow]
  cases hafter : Instant.after? now s.window with
  | none => exact .inr (Instant.after?_eq_none_iff.mp hafter)
  | some due => exact .inl (by rw [← (Instant.after?_eq_some_iff.mp hafter).1]; rfl)

/-- What the passing of time does to a circuit: nothing before its generation has ended by itself;
then a closed circuit begins a new window, and an open one becomes half-open. -/
theorem refresh_cases :
    (c.refresh s now = { circuit := c } ∧ (c.phase = .halfOpen ∨ c.isExpired now = false)) ∨
      (c.refresh s now = { circuit := c.renew (windowEnd s now) } ∧ c.phase = .closed ∧
        c.isExpired now = true) ∨
      (c.refresh s now = c.enter s now .halfOpen ∧ c.phase = .opened ∧ c.isExpired now = true) := by
  unfold refresh
  by_cases hexpired : c.isExpired now = true
  · rw [if_pos hexpired]
    cases hphase : c.phase with
    | closed => exact .inr (.inl ⟨rfl, rfl, hexpired⟩)
    | opened => exact .inr (.inr ⟨rfl, rfl, hexpired⟩)
    | halfOpen => exact .inl ⟨rfl, .inl rfl⟩
  · rw [if_neg hexpired]
    exact .inl ⟨rfl, .inr (by simpa using hexpired)⟩

/-- The passing of time never breaks off. -/
theorem refresh_brokeOff : (c.refresh s now).brokeOff = false := by
  rcases refresh_cases s now c with ⟨heq, _⟩ | ⟨heq, _⟩ | ⟨heq, _⟩
  · rw [heq]
  · rw [heq]
  · rw [heq]
    rfl

theorem refresh_halfOpen (h : c.phase = .halfOpen) : c.refresh s now = { circuit := c } := by
  rcases refresh_cases s now c with ⟨heq, _⟩ | ⟨_, hphase, _⟩ | ⟨_, hphase, _⟩
  · exact heq
  · rw [h] at hphase; cases hphase
  · rw [h] at hphase; cases hphase

theorem isExpired_iff : c.isExpired now = true ↔ ∃ due ≤ now, c.expiry = some due := by
  cases h : c.expiry <;> simp [isExpired, h]

theorem isExpired_eq_false_iff :
    c.isExpired now = false ↔ ∀ due, c.expiry = some due → now < due := by
  cases h : c.expiry <;> simp [isExpired, h]

theorem refresh_before (h : c.isExpired now = false) : c.refresh s now = { circuit := c } := by
  simp [refresh, h]

/-- No circuit is opened by the passing of time, and an open one that stays open is left alone. -/
theorem refresh_opened (h : (c.refresh s now).circuit.phase = .opened) :
    c.refresh s now = { circuit := c } ∧ c.phase = .opened := by
  rcases refresh_cases s now c with ⟨heq, _⟩ | ⟨heq, hphase, _⟩ | ⟨heq, hphase, _⟩
  · rw [heq] at h
    exact ⟨heq, h⟩
  · rw [heq] at h
    have hopened : c.phase = .opened := h
    rw [hphase] at hopened
    cases hopened
  · rw [heq] at h
    cases h

/-- A circuit that becomes half-open by the passing of time has fresh counts. -/
theorem refresh_to_halfOpen (h : (c.refresh s now).circuit.phase = .halfOpen)
    (hne : c.phase ≠ .halfOpen) : (c.refresh s now).circuit.counts = {} := by
  rcases refresh_cases s now c with ⟨heq, _⟩ | ⟨heq, hphase, _⟩ | ⟨heq, hphase, _⟩
  · rw [heq] at h
    exact absurd h hne
  · rw [heq]
    rfl
  · rw [heq]
    rfl

/-- Time begins one generation at most. -/
theorem refresh_generation :
    (c.refresh s now).circuit = c ∨ (c.refresh s now).circuit.generation = c.generation + 1 := by
  rcases refresh_cases s now c with ⟨heq, _⟩ | ⟨heq, _, _⟩ | ⟨heq, _, _⟩
  · exact .inl (by rw [heq])
  · exact .inr (by rw [heq]; rfl)
  · exact .inr (by rw [heq]; rfl)

/-- A circuit of the same phase with the same end is of the same generation. -/
theorem refresh_generation_iff :
    (c.refresh s now).circuit.generation = c.generation ↔
      (c.refresh s now).circuit.phase = c.phase ∧ (c.refresh s now).circuit.expiry = c.expiry := by
  rcases refresh_cases s now c with ⟨heq, _⟩ | ⟨heq, hphase, hexpired⟩ | ⟨heq, hphase, _⟩
  · rw [heq]
    simp
  · rw [heq]
    refine ⟨fun h => absurd h (generation_add_one_ne _).1, fun ⟨_, hexpiry⟩ => ?_⟩
    -- the window that ran out ended by now, and the new one ends later
    rw [renew_expiry] at hexpiry
    rw [isExpired, ← hexpiry, windowEnd] at hexpired
    by_cases hwindow : s.window = 0
    · simp [hwindow] at hexpired
    · simp [hwindow] at hexpired
  · rw [heq]
    refine ⟨fun h => absurd h (generation_add_one_ne _).1, fun ⟨hsame, _⟩ => ?_⟩
    rw [hphase] at hsame
    cases hsame

/-- What an outcome does to a circuit that is not open: it is counted, and perhaps another phase is
entered. -/
theorem count_cases (success : Bool) (h : c.phase ≠ .opened) :
    (c.count s now success).circuit = { c with counts := c.counts.settled success } ∨
      ∃ phase, phase ≠ c.phase ∧ phase ≠ .halfOpen ∧
        (c.count s now success).circuit
          = renew ((expiryIn? s now phase).getD c.expiry)
              { c with counts := c.counts.settled success, phase, since := now } := by
  unfold count
  cases hphase : c.phase with
  | opened => exact absurd hphase h
  | closed =>
    dsimp only
    split
    · exact .inr ⟨.opened, by simp, by simp, enter_circuit _ _ _ _⟩
    · exact .inl rfl
  | halfOpen =>
    dsimp only
    cases success with
    | true =>
      rw [if_pos rfl]
      split
      · exact .inr ⟨.closed, by simp, by simp, enter_circuit _ _ _ _⟩
      · exact .inl rfl
    | false =>
      rw [if_neg (by simp)]
      exact .inr ⟨.opened, by simp, by simp, enter_circuit _ _ _ _⟩

/-- An outcome opens a closed circuit exactly if the counts with it trip the circuit. -/
theorem count_closed (success : Bool) (h : c.phase = .closed) :
    (c.count s now success).circuit.phase = .opened
      ↔ isTripped s (c.counts.settled success) = true := by
  simp only [count, h]
  split
  · rename_i htrips
    exact ⟨fun _ => htrips, fun _ => enter_phase _ _ _ _⟩
  · rename_i htrips
    exact ⟨fun hphase => (by cases hphase), fun h => absurd h htrips⟩

/-- A failure breaks off only if it opens the circuit and the clock cannot tell until when. -/
theorem opened_of_count_brokeOff (h : (c.count s now false).brokeOff = true) :
    (c.count s now false).circuit.phase = .opened ∧ Instant.after? now s.openFor = none := by
  have opens : ∀ c' : Circuit, (c'.enter s now .opened).brokeOff = true →
      (c'.enter s now .opened).circuit.phase = .opened ∧ Instant.after? now s.openFor = none := by
    intro c' hbroke
    rw [(enter_reported s now c' .opened).2] at hbroke
    exact ⟨enter_phase _ _ _ _, by simpa [tellsEnd, expiryIn?] using hbroke⟩
  unfold count at h ⊢
  cases hphase : c.phase with
  | opened => simp [hphase] at h
  | closed =>
    simp only [hphase] at h ⊢
    split at h
    · rename_i htrips
      rw [if_pos htrips]
      exact opens _ h
    · cases h
  | halfOpen =>
    simp only [hphase] at h ⊢
    exact opens _ h

/-- The circuit after an outcome is the one that counted it, whoever learns of it. -/
theorem settle_circuit (g : UInt64) (success : Bool) :
    (c.settle s now g success).circuit
      = if g = (c.refresh s now).circuit.generation then
          ((c.refresh s now).circuit.count s now success).circuit
        else (c.refresh s now).circuit := by
  simp only [settle, apply_ite Change.circuit, ite_self]

theorem count_opened (success : Bool) (h : c.phase = .opened) :
    c.count s now success = { circuit := c } := by
  simp [count, h]

end Circuit

theorem Circuit.refusal_opened {s : Settings} {c : Circuit} (h : c.phase = .opened) :
    c.refusal? s = some .opened := by
  simp [refusal?, h]

theorem Circuit.phase_ne_opened_of_free {s : Settings} {c : Circuit} (h : c.refusal? s = none) :
    c.phase ≠ .opened := by
  intro hopened
  rw [refusal_opened hopened] at h
  cases h

/-- A half-open circuit lets a request through if a trial is left. -/
theorem refusal_halfOpen {s : Settings} {c : Circuit} (h : c.phase = .halfOpen) :
    c.refusal? s
      = if c.counts.requests.toNat < s.trialLimit.toNat then none else some .tooManyRequests := by
  simp only [Circuit.refusal?, h, ge_iff_le, UInt32.le_iff_toNat_le]
  by_cases hlt : c.counts.requests.toNat < s.trialLimit.toNat
  · rw [if_pos hlt, if_neg (by omega)]
  · rw [if_neg hlt, if_pos (by omega)]

/-! ### What happens to a breaker -/

/-- The circuit as a touch at an instant finds it: the time that has passed has acted on it. -/
def Traffic.found (t : Traffic) (now : Instant) : Circuit :=
  (t.breaker.circuit.refresh t.breaker.settings now).circuit

section Parts

variable (t : Traffic) (now : Instant)

theorem acquire_free (free : (t.found now).refusal? t.breaker.settings = none) :
    (t.breaker.acquire now).1.circuit
        = { t.found now with counts := (t.found now).counts.admitted } ∧
      (t.breaker.acquire now).1.settings = t.breaker.settings ∧
      (t.breaker.acquire now).2 = .ok (t.found now).generation := by
  have hfree : (t.breaker.circuit.refresh t.breaker.settings now).circuit.refusal?
      t.breaker.settings = none := free
  simp [acquire, Circuit.request, hfree, apply, Traffic.found]

/-- A request is refused; nobody is told of it. -/
theorem acquire_refused {refusal : Refusal}
    (refused : (t.found now).refusal? t.breaker.settings = some refusal) :
    t.breaker.acquire now = ({ t.breaker with circuit := t.found now }, .error refusal) := by
  have hrefused : (t.breaker.circuit.refresh t.breaker.settings now).circuit.refusal?
      t.breaker.settings = some refusal := refused
  simp [acquire, Circuit.request, hrefused, apply, alertFor, Traffic.found]

/-- What is let through finds a circuit that is not open, and leaves it so. -/
theorem phase_of_acquire {b breaker : Breaker} {g : UInt64}
    (admitted : b.acquire now = (breaker, .ok g)) : breaker.circuit.phase ≠ .opened := by
  -- it does not matter which calls are in flight
  let t : Traffic := ⟨b, fun _ => .idle⟩
  cases hrefusal : (t.found now).refusal? b.settings with
  | some refusal => cases (acquire_refused t now hrefusal).symm.trans admitted
  | none =>
    have hfound : (t.found now).phase ≠ .opened := Circuit.phase_ne_opened_of_free hrefusal
    have hcircuit : (b.acquire now).1.circuit
        = { t.found now with counts := (t.found now).counts.admitted } := (acquire_free t now hrefusal).1
    rw [admitted] at hcircuit
    rw [hcircuit]
    exact hfound

theorem record_circuit (g : UInt64) (success : Bool) :
    (t.breaker.record now g success).circuit
      = if g = (t.found now).generation then
          ((t.found now).count t.breaker.settings now success).circuit
        else t.found now := by
  exact Circuit.settle_circuit _ _ _ _ _

/-- The end of a call breaks off exactly if its outcome is counted and counting it does. -/
theorem breaksOff_eq (g : UInt64) (success : Bool) :
    t.breaker.breaksOff now g success
      = (decide (g = (t.found now).generation) &&
          ((t.found now).count t.breaker.settings now success).brokeOff) := by
  unfold breaksOff Circuit.settle
  by_cases hg : g = (t.found now).generation
  · rw [decide_eq_true hg, Bool.true_and]
    have hg' : g = (t.breaker.circuit.refresh t.breaker.settings now).circuit.generation := hg
    simp only [if_pos hg', apply_ite Change.brokeOff, ite_self]
    rfl
  · rw [decide_eq_false hg, Bool.false_and]
    have hg' : ¬ g = (t.breaker.circuit.refresh t.breaker.settings now).circuit.generation := hg
    simp only [if_neg hg', Circuit.refresh_brokeOff]

/-- A failure that breaks off opens the circuit, and the clock cannot tell until when. -/
theorem opened_of_breaksOff {b : Breaker} {g : UInt64} (h : b.breaksOff now g false = true) :
    (b.record now g false).circuit.phase = .opened ∧ Instant.after? now b.settings.openFor = none := by
  let t : Traffic := ⟨b, fun _ => .idle⟩
  have hcounted := (breaksOff_eq t now g false).symm.trans h
  rw [Bool.and_eq_true, decide_eq_true_iff] at hcounted
  have hcircuit : (b.record now g false).circuit = ((t.found now).count b.settings now false).circuit :=
    (record_circuit t now g false).trans (if_pos hcounted.1)
  rw [hcircuit]
  exact Circuit.opened_of_count_brokeOff _ _ _ hcounted.2

theorem record_stale {g : UInt64} (success : Bool) (h : g ≠ (t.found now).generation) :
    (t.breaker.record now g success).circuit = t.found now := by
  rw [record_circuit, if_neg h]

/-- An outcome leaves the circuit as it is found, or it is of the generation that is found and is
counted; then perhaps another phase is entered. -/
theorem record_cases (g : UInt64) (success : Bool) :
    ((t.breaker.record now g success).circuit = t.found now ∧
        (g ≠ (t.found now).generation ∨ (t.found now).phase = .opened)) ∨
      (g = (t.found now).generation ∧ (t.found now).phase ≠ .opened ∧
        ((t.breaker.record now g success).circuit
            = { t.found now with counts := (t.found now).counts.settled success } ∨
          ∃ phase, phase ≠ (t.found now).phase ∧ phase ≠ .halfOpen ∧
            (t.breaker.record now g success).circuit
              = Circuit.renew
                  ((Circuit.expiryIn? t.breaker.settings now phase).getD (t.found now).expiry)
                  { t.found now with
                    counts := (t.found now).counts.settled success, phase, since := now })) := by
  by_cases hg : g = (t.found now).generation
  · by_cases hopened : (t.found now).phase = .opened
    · refine .inl ⟨?_, .inr hopened⟩
      rw [record_circuit, if_pos hg, Circuit.count_opened _ _ _ _ hopened]
    · refine .inr ⟨hg, hopened, ?_⟩
      rw [record_circuit, if_pos hg]
      exact Circuit.count_cases _ _ _ success hopened
  · exact .inl ⟨record_stale t now success hg, .inl hg⟩

/-- An outcome begins one generation at most. -/
theorem record_generation (g : UInt64) (success : Bool) :
    (t.breaker.record now g success).circuit.generation = (t.found now).generation ∨
      (t.breaker.record now g success).circuit.generation = (t.found now).generation + 1 := by
  rcases record_cases t now g success with ⟨h, _⟩ | ⟨_, _, h | ⟨_, _, _, h⟩⟩
  · exact .inl (by rw [h])
  · exact .inl (by rw [h])
  · exact .inr (by rw [h]; rfl)

end Parts

/-! ### Moves -/

/-- What one step can do to a breaker and its calls at an instant, with the notes it leaves. -/
inductive Move (now : Instant) (t : Traffic) : List Note → Traffic → Prop where
  /-- What cannot happen leaves everything as it is. -/
  | stay : Move now t [] t
  | look : Move now t [] { t with breaker := t.breaker.poll now }
  | pass (id : TaskId) (limit : Option Duration) (idle : t.stages id = .idle)
      (free : (t.found now).refusal? t.breaker.settings = none) :
      Move now t [.admitted now id (t.found now).generation]
        ⟨(t.breaker.acquire now).1,
          t.stages.set id (.inFlight ⟨(t.found now).generation, now, limit⟩)⟩
  | refuse (id : TaskId) (refusal : Refusal) (idle : t.stages id = .idle)
      (refused : (t.found now).refusal? t.breaker.settings = some refusal) :
      Move now t [] ⟨{ t.breaker with circuit := t.found now },
        t.stages.set id (.finished (.error (refusal.toCallError t.name)))⟩
  /-- A call in flight ends in one way or another. -/
  | settle (id : TaskId) (flight : Flight) (success : Bool) (stage : Stage)
      (inFlight : t.stages id = .inFlight flight) (ended : stage.outcome? = some success) :
      Move now t [.settled now id success] (t.finish now id flight success stage)

theorem step_call {t : Traffic} {id : TaskId} (now : Instant) (limit : Option Duration)
    (idle : t.stages id = .idle) : t.step now (.call id limit) = t.call now id limit := by
  simp only [Traffic.step, idle]

theorem call_free (t : Traffic) (now : Instant) (id : TaskId) (limit : Option Duration)
    (free : (t.found now).refusal? t.breaker.settings = none) :
    t.call now id limit = ⟨(t.breaker.acquire now).1,
      t.stages.set id (.inFlight ⟨(t.found now).generation, now, limit⟩)⟩ := by
  have h := (acquire_free t now free).2.2
  unfold Traffic.call
  split
  · rename_i heq
    rw [heq] at h ⊢
    rw [Except.ok.inj h]
  · rename_i heq
    rw [heq] at h
    cases h

/-- A call that is refused is over at once, and all that happens to the breaker is that time passes. -/
theorem call_refused (t : Traffic) (now : Instant) (id : TaskId) (limit : Option Duration)
    {refusal : Refusal} (refused : (t.found now).refusal? t.breaker.settings = some refusal) :
    t.call now id limit = ⟨{ t.breaker with circuit := t.found now },
      t.stages.set id (.finished (.error (refusal.toCallError t.name)))⟩ := by
  simp only [Traffic.call, acquire_refused t now refused]

theorem call_move (t : Traffic) (now : Instant) (id : TaskId) (limit : Option Duration)
    (idle : t.stages id = .idle) : Move now t (t.noted now (.call id limit))
      (t.step now (.call id limit)) := by
  have hstep := step_call now limit idle
  cases hrefusal : (t.found now).refusal? t.breaker.settings with
  | none =>
    have hcall := hstep.trans (call_free t now id limit hrefusal)
    have hnoted : t.noted now (.call id limit) = [.admitted now id (t.found now).generation] := by
      simp [Traffic.noted, Event.task?, hcall, idle, noteFor, (acquire_free t now hrefusal).1]
    rw [hnoted, hcall]
    exact .pass id limit idle hrefusal
  | some refusal =>
    have hcall := hstep.trans (call_refused t now id limit hrefusal)
    have hnoted : t.noted now (.call id limit) = [] := by
      simp [Traffic.noted, Event.task?, hcall, idle, noteFor]
    rw [hnoted, hcall]
    exact .refuse id refusal idle hrefusal

/-- A call that comes to an end is no longer in flight, whether the breaker breaks off or not. -/
theorem conclude_ne {t : Traffic} {now : Instant} {id : TaskId} {flight : Flight} {success : Bool}
    {stage : Stage} (inFlight : t.stages id = .inFlight flight) (ended : stage.isInFlight = false) :
    t.conclude now id flight success stage ≠ t := by
  intro same
  have hended : Stage.isInFlight ((t.conclude now id flight success stage).stages id) = false := by
    show Stage.isInFlight (t.stages.set id (ite _ _ _) id) = false
    rw [Tasks.set_self]
    split
    · rfl
    · exact ended
  rw [same, inFlight] at hended
  cases hended

/-- A call in flight that ends leaves a note of its outcome. -/
theorem finish_move {t : Traffic} {now : Instant} {event : Event} {id : TaskId} {flight : Flight}
    {success : Bool} {stage : Stage} (about : event.task? = some id)
    (inFlight : t.stages id = .inFlight flight)
    (concluded : t.step now event = t.conclude now id flight success stage)
    (ended : stage.outcome? = some success) :
    Move now t (t.noted now event) (t.step now event) := by
  -- a call that was cut off has the outcome that the breaker was told
  have hended : (if t.breaker.breaksOff now flight.generation success then Stage.cutOff success
      else stage).outcome? = some success := by
    rw [apply_ite Stage.outcome?, ended]
    exact ite_self _
  have hnoted : t.noted now event = [.settled now id success] := by
    simp [Traffic.noted, about, concluded, Traffic.conclude, Traffic.finish, inFlight, noteFor, hended]
  rw [hnoted, concluded]
  exact .settle id flight success _ inFlight hended

/-- What changes nothing leaves no note. -/
theorem noted_of_same {t : Traffic} {now : Instant} {event : Event} (same : t.step now event = t) :
    t.noted now event = [] := by
  unfold Traffic.noted
  rw [same]
  split
  · rename_i id _
    cases hstage : t.stages id <;> simp [noteFor, Stage.outcome?]
  · rfl

theorem stay_move {t : Traffic} {now : Instant} {event : Event} (same : t.step now event = t) :
    Move now t (t.noted now event) (t.step now event) := by
  rw [noted_of_same same, same]
  exact .stay

/-- **Every step is a move.** -/
theorem step_move (now : Instant) (t : Traffic) (event : Event) :
    Move now t (t.noted now event) (t.step now event) := by
  cases event with
  | call id limit =>
    cases hstage : t.stages id with
    | idle => exact call_move t now id limit hstage
    | _ => exact stay_move (by simp only [Traffic.step, hstage])
  | settle id result =>
    cases hstage : t.stages id with
    | inFlight flight =>
      cases result with
      | ok value => exact finish_move rfl hstage (by simp only [Traffic.step, hstage]; rfl) rfl
      | error e => exact finish_move rfl hstage (by simp only [Traffic.step, hstage]; rfl) rfl
    | _ => exact stay_move (by simp only [Traffic.step, hstage])
  | expire id =>
    cases hstage : t.stages id with
    | inFlight flight =>
      obtain ⟨generation, began, limit⟩ := flight
      cases limit with
      | some limit => exact finish_move rfl hstage (by simp only [Traffic.step, hstage]; rfl) rfl
      | none => exact stay_move (by simp only [Traffic.step, hstage])
    | _ => exact stay_move (by simp only [Traffic.step, hstage])
  | drop id =>
    cases hstage : t.stages id with
    | inFlight flight => exact finish_move rfl hstage (by simp only [Traffic.step, hstage]; rfl) rfl
    | _ => exact stay_move (by simp only [Traffic.step, hstage])
  | observe => exact .look

theorem step_stages_other {now : Instant} {t : Traffic} {event : Event} {id : TaskId}
    (other : event.task? ≠ some id) : (t.step now event).stages id = t.stages id := by
  have hset : ∀ {task : TaskId} (stage : Stage), event.task? = some task →
      t.stages.set task stage id = t.stages id := by
    intro task stage htask
    exact Tasks.set_other _ _ fun hid => other (hid ▸ htask)
  cases event with
  | call task limit =>
    simp only [Traffic.step]
    split
    · unfold Traffic.call
      split <;> exact hset _ rfl
    · rfl
  | settle task result =>
    simp only [Traffic.step]
    split
    · exact hset _ rfl
    · exact hset _ rfl
    · rfl
  | expire task =>
    simp only [Traffic.step]
    split
    · exact hset _ rfl
    · rfl
  | drop task =>
    simp only [Traffic.step]
    split
    · exact hset _ rfl
    · rfl
  | observe => rfl

theorem run_stages_other {t : Traffic} {id : TaskId} {steps : List (Instant × Event)}
    (others : ∀ s ∈ steps, s.2.task? ≠ some id) : (t.run steps).stages id = t.stages id := by
  induction steps generalizing t with
  | nil => rfl
  | cons s steps ih =>
    rw [run_cons, ih fun s' hs' => others s' (by simp [hs']), step_stages_other (others s (by simp))]

variable {now : Instant} {t later : Traffic} {notes : List Note}

/-- What is noted as the end of a call is the end of a call in flight. -/
theorem Move.of_settled {time : Instant} {id : TaskId} {success : Bool}
    (move : Move now t [.settled time id success] later) :
    ∃ flight stage, t.stages id = .inFlight flight ∧ stage.outcome? = some success ∧
      later = t.finish now id flight success stage := by
  cases move with
  | settle _ flight _ stage inFlight ended => exact ⟨flight, stage, inFlight, ended, rfl⟩

theorem Move.settings (move : Move now t notes later) :
    later.breaker.settings = t.breaker.settings := by
  cases move with
  | pass id limit idle free => exact (acquire_free t now free).2.1
  | _ => rfl

theorem run_settings (t : Traffic) (steps : List (Instant × Event)) :
    (t.run steps).breaker.settings = t.breaker.settings := by
  induction steps generalizing t with
  | nil => rfl
  | cons s steps ih => rw [run_cons, ih, (step_move s.1 t s.2).settings]

theorem run_name (t : Traffic) (steps : List (Instant × Event)) : (t.run steps).name = t.name := by
  rw [Traffic.name, run_settings, Traffic.name]

/-- The notes tell how far each call has come, whatever happens. -/
theorem Move.told {log : List Note} (move : Move now t notes later)
    (told : ∀ id, (t.stages id).IsToldBy log id) (id : TaskId) :
    (later.stages id).IsToldBy (log ++ notes) id := by
  cases move with
  | stay | look => rw [List.append_nil]; exact told id
  | pass task limit idle free =>
    have hown : Stage.idle.IsToldBy log task := idle ▸ told task
    exact told_set told (by simp [Note.id])
      (hown.admitted now ⟨(t.found now).generation, now, limit⟩) id
  | refuse task refusal idle refused =>
    have hown : Stage.idle.IsToldBy log task := idle ▸ told task
    refine told_set told (by simp) ?_ id
    rw [List.append_nil]
    exact hown.finished _
  | settle task flight success stage inFlight ended =>
    have hown : (Stage.inFlight flight).IsToldBy log task := inFlight ▸ told task
    exact told_set told (by simp [Note.id]) (hown.settled now ended) id

/-- What every move keeps, every run keeps. -/
theorem run_induction {P : Traffic → Prop}
    (keeps : ∀ {now t notes later}, P t → Move now t notes later → P later) (h : P t)
    (steps : List (Instant × Event)) : P (t.run steps) := by
  induction steps generalizing t with
  | nil => exact h
  | cons s steps ih => exact ih (keeps h (step_move s.1 t s.2))

/-! ### What an open circuit has counted -/

/-- A circuit that is found open was open already. -/
theorem found_opened (h : (t.found now).phase = .opened) :
    t.found now = t.breaker.circuit ∧ t.breaker.circuit.phase = .opened := by
  obtain ⟨heq, hopened⟩ := Circuit.refresh_opened _ _ _ h
  exact ⟨by rw [Traffic.found, heq], hopened⟩

/-- An open circuit has counted nothing since it opened. -/
def BlankWhileOpened (t : Traffic) : Prop :=
  t.breaker.circuit.phase = .opened → t.breaker.circuit.counts = {}

theorem Move.blankWhileOpened (move : Move now t notes later) (h : BlankWhileOpened t) :
    BlankWhileOpened later := by
  have found : (t.found now).phase = .opened → (t.found now).counts = {} := by
    intro hphase
    obtain ⟨heq, hopened⟩ := found_opened hphase
    rw [heq]
    exact h hopened
  intro hopened
  cases move with
  | stay => exact h hopened
  | look => exact found hopened
  | refuse id refusal => exact found hopened
  | pass id limit idle free =>
    rw [(acquire_free t now free).1] at hopened
    exact (Circuit.phase_ne_opened_of_free free hopened).elim
  | settle id flight success stage =>
    change (t.breaker.record now flight.generation success).circuit.phase = .opened at hopened
    show (t.breaker.record now flight.generation success).circuit.counts = {}
    rcases record_cases t now flight.generation success with
      ⟨h, _⟩ | ⟨_, hphase, h | ⟨_, _, _, h⟩⟩
    · rw [h] at hopened ⊢
      exact found hopened
    · rw [h] at hopened
      exact absurd hopened hphase
    · rw [h]
      rfl

theorem Traffic.IsFresh.run_blankWhileOpened {began : Instant} (fresh : t.IsFresh began)
    (steps : List (Instant × Event)) : BlankWhileOpened (t.run steps) := by
  refine run_induction (fun h move => move.blankWhileOpened h) (fun hopened => ?_) steps
  rw [fresh.circuit] at hopened
  cases hopened

end ProfileGuard.Breaker
