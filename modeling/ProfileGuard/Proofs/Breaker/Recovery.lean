import ProfileGuard.Proofs.Breaker.Trials

/-!
# A breaker that recovers

A half-open circuit does not end its phase by itself: only an outcome of a trial leads out.  So it must not
be that all trials are taken while none of them is in flight.

* **`Breaker.Trials.requests_lt`** — a half-open circuit without a trial in flight has one left.
* **`Breaker.call_passes_when_settled`** — a breaker lets a call through once its calls have ended and its
  time is over.
-/

namespace ProfileGuard.Breaker

variable {s : Settings} {c : Circuit} {stages : Tasks Stage} {log recent : List Note}

/-- **Trials that have all ended leave one more.**  They have all succeeded, and had they been as many as
the limit, they would have closed the circuit. -/
theorem Trials.requests_lt (h : Trials s c stages log recent) (within : s.closeAfter ≤ s.trialLimit)
    (settled : ∀ id ∈ letThrough recent, (stages id).isInFlight = false) :
    c.counts.requests < s.trialLimit := by
  have hnone : ((letThrough recent).filter fun id => (stages id).isInFlight) = [] :=
    List.filter_eq_nil_iff.mpr fun id hid => by simp [settled id hid]
  have hcovered := h.covered
  rw [hnone, List.length_nil, Nat.add_zero] at hcovered
  rw [UInt32.lt_iff_toNat_lt]
  calc c.counts.requests.toNat ≤ c.counts.successRun.toNat := hcovered
    _ < s.closeAfter.toNat := h.few
    _ ≤ s.trialLimit.toNat := UInt32.le_iff_toNat_le.mp within

theorem refusal_of_requests_lt (halfOpen : c.phase = .halfOpen)
    (left : c.counts.requests < s.trialLimit) : c.refusal? s = none := by
  rw [refusal_halfOpen halfOpen, if_pos (UInt32.lt_iff_toNat_lt.mp left)]

variable {t : Traffic} {now last : Instant} {ended : Option Instant} {id : TaskId}

/-- A call that finds a circuit which lets it through is in flight. -/
theorem isInFlight_of_free (limit : Option Duration) (idle : t.stages id = .idle)
    (free : (t.found now).refusal? t.breaker.settings = none) :
    (t.step now (.call id limit)).isInFlight id = true := by
  rw [step_call now limit idle, call_free t now id limit free]
  simp [Traffic.isInFlight, Stage.isInFlight]

/-- A half-open circuit without a trial in flight lets a call through at any time. -/
theorem found_free_of_halfOpen (trials : t.HasTrials log recent)
    (within : t.breaker.settings.closeAfter ≤ t.breaker.settings.trialLimit)
    (settled : ∀ id ∈ letThrough recent, t.isInFlight id = false)
    (halfOpen : t.breaker.circuit.phase = .halfOpen) (now : Instant) :
    (t.found now).refusal? t.breaker.settings = none := by
  rw [Traffic.found, Circuit.refresh_halfOpen _ _ _ halfOpen]
  exact refusal_of_requests_lt halfOpen ((trials halfOpen).requests_lt within settled)

/-- An open circuit whose time is over lets a first trial through. -/
theorem found_free_of_opened (keeps : t.KeepsTime last ended)
    (positive : t.breaker.settings.trialLimit ≠ 0) (opened : t.breaker.circuit.phase = .opened)
    (after : last + t.breaker.settings.openFor ≤ now) (told : now ≤ Instant.last) :
    (t.found now).refusal? t.breaker.settings = none := by
  have hafter : Instant.after? last t.breaker.settings.openFor
      = some (last + t.breaker.settings.openFor) :=
    Instant.after?_eq_some_iff.mpr ⟨rfl, after.trans told⟩
  have hexpired : t.breaker.circuit.isExpired now = true :=
    (Circuit.isExpired_iff _ _).mpr ⟨_, after, by rw [keeps.2 opened, hafter, Option.some_or]⟩
  have hfound : t.found now
      = (t.breaker.circuit.enter t.breaker.settings now .halfOpen).circuit := by
    simp [Traffic.found, Circuit.refresh, hexpired, opened]
  rw [hfound]
  exact refusal_of_requests_lt rfl (UInt32.pos_iff_ne_zero.mpr positive)

/-- A closed circuit lets every call through. -/
theorem found_free_of_closed (closed : t.breaker.circuit.phase = .closed) (now : Instant) :
    (t.found now).refusal? t.breaker.settings = none := by
  have hfound : (t.found now).phase = .closed := by
    rw [Traffic.found]
    rcases Circuit.refresh_cases t.breaker.settings now t.breaker.circuit with
      ⟨heq, _⟩ | ⟨heq, _, _⟩ | ⟨_, hopened, _⟩
    · rw [heq]
      exact closed
    · rw [heq]
      exact closed
    · rw [closed] at hopened
      cases hopened
  simp [Circuit.refusal?, hfound]

/-- **A breaker never locks itself up.**  After any run, however its calls ended: if no call is in flight
that was let through since the present generation began, a call passes as soon as the time of an open
circuit has gone by since the last phase change, which is at an instant that the clock can tell.  A half-open
circuit then has a trial left, and a call passes at any time. -/
theorem call_passes_when_settled {t : Traffic} {began : Instant} (fresh : t.IsFresh began)
    (valid : t.breaker.settings.validate = .ok ()) (steps : List (Instant × Event))
    (settled : ∀ id ∈ letThrough (t.recent [] steps), (t.run steps).isInFlight id = false) :
    let here := t.run steps
    (∀ now id limit, here.stages id = .idle →
      t.lastChange began steps + t.breaker.settings.openFor ≤ now → now ≤ Instant.last →
      (here.step now (.call id limit)).isInFlight id = true) ∧
    (here.breaker.circuit.phase = .halfOpen →
      here.breaker.circuit.counts.requests < t.breaker.settings.trialLimit ∧
      ∀ now id limit, here.stages id = .idle →
        (here.step now (.call id limit)).isInFlight id = true) := by
  intro here
  obtain ⟨_, limited, positive, within, _⟩ := Settings.validate_eq_ok.mp valid
  have settings : here.breaker.settings = t.breaker.settings := run_settings t steps
  have trials := (run_trials fresh.told fresh.hasTrials positive steps).2
  have keeps := fresh.keepsTime.run steps
  have halfOpenFree := found_free_of_halfOpen trials (by rw [settings]; exact within) settled
  constructor
  · intro now id limit idle after told
    refine isInFlight_of_free limit idle ?_
    cases hphase : here.breaker.circuit.phase with
    | closed => exact found_free_of_closed hphase now
    | opened =>
      exact found_free_of_opened keeps (by rw [settings]; exact limited) hphase
        (by rw [settings]; exact after) told
    | halfOpen => exact halfOpenFree hphase now
  · intro halfOpen
    have hleft := (trials halfOpen).requests_lt (by rw [settings]; exact within) settled
    rw [settings] at hleft
    exact ⟨hleft, fun now id limit idle => isInFlight_of_free limit idle (halfOpenFree halfOpen now)⟩

/-- One failed call opens the circuit.  It lets a trial through when its time is over, also if nobody
touches it before; one trial succeeds, a call of the window before is dropped late, and then another trial
passes. -/
theorem call_passes_when_settled_after_trial :
    let t := Traffic.start { trialLimit := 2, closeAfter := 2, openFor := 10, minRequests := 1 } 0
    let opened : List (Instant × Event) := [(1, .call 0 none), (1, .call 1 none), (2, .drop 0)]
    let halfOpen : List (Instant × Event) :=
      opened ++ [(12, .call 2 none), (13, .settle 2 (.ok ())), (13, .drop 1)]
    t.breaker.settings.validate = .ok () ∧
      ((t.run opened).step 12 (.call 2 none)).isInFlight 2 = true ∧
      (t.run halfOpen).breaker.circuit.counts.requests < 2 ∧
      ((t.run halfOpen).step 13 (.call 3 none)).isInFlight 3 = true := by
  intro t opened halfOpen
  have fresh : t.IsFresh 0 := ⟨rfl, fun _ => rfl⟩
  have valid : t.breaker.settings.validate = .ok () :=
    Settings.validate_eq_ok.mpr (by decide +kernel)
  have first := call_passes_when_settled fresh valid opened (by decide +kernel)
  have second := call_passes_when_settled fresh valid halfOpen (by decide +kernel)
  have phase : (t.run halfOpen).breaker.circuit.phase = .halfOpen := by decide +kernel
  exact ⟨valid, first.1 12 2 none (run_stages_other (t := t) (by decide)) (by decide +kernel)
      (by decide +kernel), (second.2 phase).1,
    (second.2 phase).2 13 3 none (run_stages_other (t := t) (by decide))⟩

end ProfileGuard.Breaker
