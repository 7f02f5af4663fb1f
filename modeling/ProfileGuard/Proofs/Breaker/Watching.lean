import ProfileGuard.Proofs.Breaker.Moves

/-!
# Looks at a breaker

Someone who looks at a breaker lets the time that has passed act on the circuit, as any touch does.  The
next event would have done so itself; it tells the difference only where the time of acting matters.  An
open circuit whose time is over becomes half-open sooner or later, and a half-open one has no end of its
own.  But a closed circuit whose window is over begins the next window when it is touched, and a look is a
touch.

* **`Breaker.Circuit.AgreesWith`** — circuits that differ only in when they say their phase was entered.
* **`Breaker.Shadows`** — two breakers that no later event tells apart.
* **`Breaker.looks_unnoticed`** — calls go as they would without looks, if no look begins a window.
* **`Breaker.look_beginning_window_noticed`** — a look that does.
-/

namespace ProfileGuard.Breaker

/-- Whether someone looks at the breaker. -/
def Event.isLook : Event → Bool
  | observe => true
  | _ => false

/-- A run without its looks. -/
def withoutLooks (steps : List (Instant × Event)) : List (Instant × Event) :=
  steps.filter fun s => !s.2.isLook

/-- Whether a touch begins a new window of a closed circuit. -/
def Circuit.isWindowOver (now : Instant) (c : Circuit) : Bool :=
  c.phase = .closed && c.isExpired now

/-- How many looks of a run begin a new window. -/
def Traffic.windowsBegunByLooks (t : Traffic) : List (Instant × Event) → Nat
  | [] => 0
  | s :: steps =>
    (if s.2.isLook && t.breaker.circuit.isWindowOver s.1 then 1 else 0)
      + (t.step s.1 s.2).windowsBegunByLooks steps

/-! ### Circuits that agree -/

/-- Two circuits differ at most in when they say that their phase was entered. -/
def Circuit.AgreesWith (c d : Circuit) : Prop := ∃ since, c = { d with since }

namespace Circuit.AgreesWith

variable {c d e : Circuit} (s : Settings) (now : Instant)

@[refl]
theorem refl (c : Circuit) : c.AgreesWith c := ⟨c.since, rfl⟩

theorem trans (h : c.AgreesWith d) (h' : d.AgreesWith e) : c.AgreesWith e := by
  obtain ⟨since, rfl⟩ := h
  obtain ⟨_, rfl⟩ := h'
  exact ⟨since, rfl⟩

theorem symm (h : c.AgreesWith d) : d.AgreesWith c := by
  obtain ⟨since, rfl⟩ := h
  exact ⟨d.since, rfl⟩

theorem phase (h : c.AgreesWith d) : c.phase = d.phase := by
  obtain ⟨_, rfl⟩ := h
  rfl

theorem generation (h : c.AgreesWith d) : c.generation = d.generation := by
  obtain ⟨_, rfl⟩ := h
  rfl

theorem counts (h : c.AgreesWith d) : c.counts = d.counts := by
  obtain ⟨_, rfl⟩ := h
  rfl

theorem refusal (h : c.AgreesWith d) : c.refusal? s = d.refusal? s := by
  obtain ⟨_, rfl⟩ := h
  rfl

theorem admitted (h : c.AgreesWith d) : ({ c with counts := c.counts.admitted } : Circuit).AgreesWith
    { d with counts := d.counts.admitted } := by
  obtain ⟨since, rfl⟩ := h
  exact ⟨since, rfl⟩

theorem refresh (h : c.AgreesWith d) :
    (c.refresh s now).circuit.AgreesWith (d.refresh s now).circuit := by
  obtain ⟨phase, generation, counts, expiry, _⟩ := d
  obtain ⟨since, rfl⟩ := h
  unfold Circuit.refresh
  split
  · rw [if_pos (by assumption)]
    cases phase with
    | closed => exact ⟨since, rfl⟩
    | opened => exact ⟨now, rfl⟩
    | halfOpen => exact ⟨since, rfl⟩
  · rw [if_neg (by assumption)]
    exact ⟨since, rfl⟩

/-- An outcome does the same to both. -/
theorem count (h : c.AgreesWith d) (success : Bool) :
    (c.count s now success).circuit.AgreesWith (d.count s now success).circuit ∧
      (c.count s now success).entered = (d.count s now success).entered ∧
      (c.count s now success).brokeOff = (d.count s now success).brokeOff := by
  obtain ⟨phase, generation, counts, expiry, _⟩ := d
  obtain ⟨since, rfl⟩ := h
  -- entering a phase sets the one thing in which the two differ
  cases phase with
  | opened => exact ⟨⟨since, rfl⟩, rfl, rfl⟩
  | closed =>
    dsimp only [Circuit.count]
    split
    · exact ⟨.refl _, rfl, rfl⟩
    · exact ⟨⟨since, rfl⟩, rfl, rfl⟩
  | halfOpen =>
    dsimp only [Circuit.count]
    split
    · split
      · exact ⟨.refl _, rfl, rfl⟩
      · exact ⟨⟨since, rfl⟩, rfl, rfl⟩
    · exact ⟨.refl _, rfl, rfl⟩

end Circuit.AgreesWith

variable {t o w : Traffic} {now later : Instant}

/-! ### What the parts of a step do to a breaker -/

/-- Nobody is told of what time does to a circuit. -/
theorem alertFor_refresh (b : Breaker) (s : Settings) (now : Instant) (c : Circuit) :
    b.alertFor (c.refresh s now).entered = [] := by
  rcases Circuit.refresh_cases s now c with ⟨heq, _⟩ | ⟨heq, _⟩ | ⟨heq, _⟩ <;> rw [heq] <;> rfl

theorem acquire_free_eq (free : (t.found now).refusal? t.breaker.settings = none) :
    (t.breaker.acquire now).1 = { t.breaker with
      circuit := { t.found now with counts := (t.found now).counts.admitted } } := by
  have hfree : (t.breaker.circuit.refresh t.breaker.settings now).circuit.refusal?
      t.breaker.settings = none := free
  simp [acquire, Circuit.request, hfree, apply, alertFor_refresh, Traffic.found]

/-- An outcome acts on the circuit as it is found, if it is of the present generation. -/
theorem record_eq (t : Traffic) (now : Instant) (g : UInt64) (success : Bool) :
    t.breaker.record now g success
      = if g = (t.found now).generation then
          t.breaker.apply ((t.found now).count t.breaker.settings now success)
        else { t.breaker with circuit := t.found now } := by
  have silent := alertFor_refresh t.breaker t.breaker.settings now t.breaker.circuit
  by_cases hg : g = (t.found now).generation
  · have hg' : g = (t.breaker.circuit.refresh t.breaker.settings now).circuit.generation := hg
    rw [if_pos hg, record, Circuit.settle, if_pos hg']
    -- the phase that time led to counts only if the outcome leads to none, and nobody is told of it
    have halerts : t.breaker.alertFor
          (((t.found now).count t.breaker.settings now success).entered.or
            (t.breaker.circuit.refresh t.breaker.settings now).entered)
        = t.breaker.alertFor ((t.found now).count t.breaker.settings now success).entered := by
      cases ((t.found now).count t.breaker.settings now success).entered with
      | none => exact silent
      | some phase => rfl
    dsimp only
    split
    · rfl
    · simp only [apply]
      rw [← halerts]
      rfl
  · have hg' : ¬ g = (t.breaker.circuit.refresh t.breaker.settings now).circuit.generation := hg
    rw [if_neg hg, record, Circuit.settle, if_neg hg', apply, silent, List.append_nil]
    rfl

theorem poll_eq (t : Traffic) (now : Instant) :
    t.breaker.poll now = { t.breaker with circuit := t.found now } := by
  simp [poll, apply, alertFor_refresh, Traffic.found]

/-- Acting twice, the passing of time does what it does at once, but for the beginning of a window. -/
theorem Circuit.refresh_refresh (s : Settings) (c : Circuit) (h : now ≤ later) :
    let twice := ((c.refresh s now).circuit.refresh s later).circuit
    let once := (c.refresh s later).circuit
    twice.phase = once.phase ∧ twice.counts = once.counts ∧
      (c.isWindowOver now = false → twice.AgreesWith once) := by
  have expired : c.isExpired now = true → c.isExpired later = true := by
    unfold Circuit.isExpired
    cases c.expiry with
    | none => exact id
    | some expiry => simpa using fun hnow => le_trans hnow h
  intro twice once
  rcases refresh_cases s now c with ⟨heq, _⟩ | ⟨heq, hphase, hexpired⟩ | ⟨heq, hphase, hexpired⟩
  · have hsame : twice = once := by simp only [twice, once, heq]
    rw [hsame]
    exact ⟨rfl, rfl, fun _ => .refl _⟩
  · have honce : once = c.renew (Circuit.windowEnd s later) := by
      simp only [once, Circuit.refresh, expired hexpired, if_true, hphase]
    have htwice : twice.phase = .closed ∧ twice.counts = {} := by
      simp only [twice, heq]
      rcases refresh_cases s later (c.renew (windowEnd s now)) with
        ⟨h, _⟩ | ⟨h, _⟩ | ⟨_, hopened, _⟩
      · rw [h]
        exact ⟨hphase, rfl⟩
      · rw [h]
        exact ⟨hphase, rfl⟩
      · rw [renew_phase, hphase] at hopened
        cases hopened
    rw [honce]
    refine ⟨htwice.1.trans hphase.symm, htwice.2, fun hnot => ?_⟩
    simp [Circuit.isWindowOver, hphase, hexpired] at hnot
  · have honce : once = (c.enter s later .halfOpen).circuit := by
      simp only [once, Circuit.refresh, expired hexpired, if_true, hphase]
    have htwice : twice = (c.enter s now .halfOpen).circuit := by
      simp only [twice, heq]
      rw [refresh_halfOpen _ _ _ rfl]
    rw [honce, htwice]
    exact ⟨rfl, rfl, fun _ => ⟨now, rfl⟩⟩

theorem found_look (t : Traffic) (now later : Instant) : (t.step now .observe).found later
    = ((t.found now).refresh t.breaker.settings later).circuit := by
  show ((t.breaker.poll now).circuit.refresh (t.breaker.poll now).settings later).circuit = _
  rw [poll_eq]

/-! ### Breakers that no later event tells apart -/

/-- From an instant on, every event finds two breakers alike, though time may have acted on one of them
only. -/
structure Shadows (now : Instant) (o w : Traffic) : Prop where
  breaker : o.breaker = { w.breaker with circuit := o.breaker.circuit }
  stages : o.stages = w.stages
  found : ∀ later, now ≤ later → (o.found later).AgreesWith (w.found later)

namespace Shadows

theorem refl (now : Instant) (t : Traffic) : Shadows now t t := ⟨rfl, rfl, fun _ _ => .refl _⟩

theorem symm (h : Shadows now o w) : Shadows now w o := by
  refine ⟨?_, h.stages.symm, fun later htime => (h.found later htime).symm⟩
  rw [h.breaker]

theorem mono (h : Shadows now o w) (after : now ≤ later) : Shadows later o w :=
  ⟨h.breaker, h.stages, fun time htime => h.found time (after.trans htime)⟩

theorem settings (h : Shadows now o w) : o.breaker.settings = w.breaker.settings := by
  rw [h.breaker]

theorem name (h : Shadows now o w) : o.name = w.name := by
  rw [Traffic.name, h.settings, Traffic.name]

/-- Breakers whose circuits agree already are found alike. -/
theorem of_agrees (breaker : o.breaker = { w.breaker with circuit := o.breaker.circuit })
    (stages : o.stages = w.stages) (circuit : o.breaker.circuit.AgreesWith w.breaker.circuit) :
    Shadows now o w := by
  refine ⟨breaker, stages, fun later _ => ?_⟩
  have settings : o.breaker.settings = w.breaker.settings := by rw [breaker]
  rw [Traffic.found, settings]
  exact circuit.refresh _ later

/-- A look that begins no window goes unnoticed. -/
theorem look (h : Shadows now o w) (after : now ≤ later)
    (gentle : w.breaker.circuit.isWindowOver later = false) :
    Shadows later o (w.step later .observe) := by
  refine ⟨?_, h.stages, fun time htime => (h.found time (after.trans htime)).trans ?_⟩
  · show o.breaker = { w.breaker.poll later with circuit := o.breaker.circuit }
    rw [poll_eq, h.breaker]
  · rw [found_look]
    exact ((Circuit.refresh_refresh w.breaker.settings _ htime).2.2 gentle).symm

/-- A call that begins gets the same answer from both. -/
theorem call (h : Shadows now o w) (after : now ≤ later) (id : TaskId) (limit : Option Duration) :
    Shadows later (o.call later id limit) (w.call later id limit) := by
  have found := h.found later after
  have refusal := found.refusal w.breaker.settings
  rw [← h.settings] at refusal
  cases hrefusal : (o.found later).refusal? o.breaker.settings with
  | none =>
    rw [hrefusal, h.settings] at refusal
    rw [call_free o later id limit hrefusal, call_free w later id limit refusal.symm,
      acquire_free_eq hrefusal, acquire_free_eq refusal.symm, found.generation, h.stages]
    refine of_agrees ?_ rfl found.admitted
    rw [h.breaker]
  | some r =>
    rw [hrefusal, h.settings] at refusal
    rw [call_refused o later id limit hrefusal, call_refused w later id limit refusal.symm, h.name,
      h.stages]
    refine of_agrees ?_ rfl found
    rw [h.breaker]

/-- A call that ends is counted by both or by none. -/
theorem finish (h : Shadows now o w) (after : now ≤ later) (id : TaskId) (flight : Flight)
    (success : Bool) (stage : Stage) :
    Shadows later (o.finish later id flight success stage)
      (w.finish later id flight success stage) := by
  have found := h.found later after
  obtain ⟨circuit, entered, _⟩ := found.count w.breaker.settings later success
  rw [Traffic.finish, Traffic.finish, record_eq, record_eq, found.generation, h.stages, h.settings]
  split
  · refine of_agrees ?_ rfl circuit
    have alert : o.breaker.alertFor = w.breaker.alertFor := by
      rw [h.breaker]
      rfl
    simp only [apply, entered, alert]
    rw [h.breaker]
  · refine of_agrees ?_ rfl found
    rw [h.breaker]

/-- A call comes to the same end with both. -/
theorem conclude (h : Shadows now o w) (after : now ≤ later) (id : TaskId) (flight : Flight)
    (success : Bool) (stage : Stage) :
    Shadows later (o.conclude later id flight success stage)
      (w.conclude later id flight success stage) := by
  have found := h.found later after
  have brokeOff := (found.count w.breaker.settings later success).2.2
  rw [Traffic.conclude, Traffic.conclude, breaksOff_eq, breaksOff_eq, found.generation, h.settings,
    brokeOff]
  exact h.finish after id flight success _

/-- Any event goes unnoticed that happens to both. -/
theorem step (h : Shadows now o w) (after : now ≤ later) (event : Event) :
    Shadows later (o.step later event) (w.step later event) := by
  cases event with
  | call id limit =>
    simp only [Traffic.step, h.stages]
    cases w.stages id with
    | idle => exact h.call after id limit
    | _ => exact h.mono after
  | settle id result =>
    simp only [Traffic.step, h.stages]
    cases w.stages id with
    | inFlight flight => cases result <;> exact h.conclude after id flight _ _
    | _ => exact h.mono after
  | expire id =>
    simp only [Traffic.step, h.stages, h.name]
    cases w.stages id with
    | inFlight flight =>
      obtain ⟨generation, began, limit⟩ := flight
      cases limit with
      | some limit => exact h.conclude after id _ _ _
      | none => exact h.mono after
    | _ => exact h.mono after
  | drop id =>
    simp only [Traffic.step, h.stages]
    cases w.stages id with
    | inFlight flight => exact h.conclude after id flight _ _
    | _ => exact h.mono after
  | observe =>
    show Shadows later { o with breaker := o.breaker.poll later }
      { w with breaker := w.breaker.poll later }
    rw [poll_eq, poll_eq]
    refine of_agrees ?_ h.stages (h.found later after)
    rw [h.breaker]

/-- A run goes unnoticed with or without its looks, if no look begins a window. -/
theorem run (h : Shadows now o w) {steps : List (Instant × Event)} (inOrder : InOrder now steps)
    (gentle : w.windowsBegunByLooks steps = 0) :
    ∃ last, Shadows last (o.run (withoutLooks steps)) (w.run steps) ∧
      ∀ later, now ≤ later → (∀ s ∈ steps, s.1 ≤ later) → last ≤ later := by
  induction steps generalizing o w now with
  | nil => exact ⟨now, h, fun _ hnow _ => hnow⟩
  | cons s steps ih =>
    obtain ⟨hfirst, hrest⟩ := inOrder_cons inOrder
    rw [Traffic.windowsBegunByLooks, Nat.add_eq_zero_iff] at gentle
    have tail : ∀ {o : Traffic}, Shadows s.1 o (w.step s.1 s.2) →
        ∃ last, Shadows last (o.run (withoutLooks steps)) (w.run (s :: steps)) ∧
          ∀ later, now ≤ later → (∀ s' ∈ s :: steps, s'.1 ≤ later) → last ≤ later := by
      intro o h
      obtain ⟨last, hlast, hle⟩ := ih h hrest gentle.2
      exact ⟨last, hlast, fun later _ hall =>
        hle later (hall s (by simp)) fun s' hs' => hall s' (by simp [hs'])⟩
    obtain ⟨time, event⟩ := s
    cases hlook : event.isLook with
    | false =>
      have hwithout : withoutLooks ((time, event) :: steps) = (time, event) :: withoutLooks steps := by
        simp [withoutLooks, hlook]
      rw [hwithout]
      exact tail (h.step hfirst event)
    | true =>
      have hwithout : withoutLooks ((time, event) :: steps) = withoutLooks steps := by
        simp [withoutLooks, hlook]
      rw [hwithout]
      cases event with
      | observe => exact tail (h.look hfirst (by simpa [Event.isLook] using gentle.1))
      | _ => cases hlook

end Shadows

/-- **Looks go unnoticed.**  A run whose looks begin no window goes as it would without them: each call
comes as far and gets the same result, listeners are told the same, and whoever looks next sees the same
phase and counts.  Any look at all leaves the phase and the counts that the next event finds as they would
be; it can only move the beginning of a window. -/
theorem looks_unnoticed (t : Traffic) :
    (∀ began steps, InOrder began steps → t.windowsBegunByLooks steps = 0 →
      let watched := t.run steps
      let alone := t.run (withoutLooks steps)
      alone.stages = watched.stages ∧ alone.breaker.alerts = watched.breaker.alerts ∧
      ∀ now, began ≤ now → (∀ s ∈ steps, s.1 ≤ now) →
        (alone.found now).phase = (watched.found now).phase ∧
          (alone.found now).counts = (watched.found now).counts) ∧
    (∀ steps now later, now ≤ later →
      let alone := t.run steps
      let watched := alone.step now .observe
      (watched.found later).phase = (alone.found later).phase ∧
        (watched.found later).counts = (alone.found later).counts) := by
  constructor
  · intro began steps inOrder gentle watched alone
    obtain ⟨last, shadows, hlast⟩ := (Shadows.refl began t).run inOrder gentle
    refine ⟨shadows.stages, by rw [shadows.breaker], fun now hbegan hall => ?_⟩
    have found := shadows.found now (hlast now hbegan hall)
    exact ⟨found.phase, found.counts⟩
  · intro steps now later h alone watched
    have hsame := Circuit.refresh_refresh alone.breaker.settings alone.breaker.circuit h
    rw [found_look]
    exact ⟨hsame.1, hsame.2.1⟩

/-- A failed call opens the circuit, and a trial closes it again.  There are looks in the window, while the
circuit is open, when its time is over and while the trial is in flight. -/
theorem looks_unnoticed_through_recovery :
    let t := Traffic.start
      { trialLimit := 1, closeAfter := 1, window := 10, openFor := 10, minRequests := 1 } 0
    let steps : List (Instant × Event) := [(1, .observe), (2, .call 0 (some 3)), (3, .observe),
      (5, .expire 0), (6, .observe), (7, .call 1 none), (15, .observe), (18, .call 2 none),
      (18, .observe), (19, .settle 2 (.ok ()))]
    t.windowsBegunByLooks steps = 0 ∧
      (t.run (withoutLooks steps)).stages = (t.run steps).stages ∧
      ((t.run (withoutLooks steps)).found 20).phase = .closed := by
  intro t steps
  have gentle : t.windowsBegunByLooks steps = 0 := by decide +kernel
  have h := (looks_unnoticed t).1 0 steps (by decide) gentle
  have closed : ((t.run steps).found 20).phase = .closed := by decide +kernel
  have found := (h.2.2 20 (by decide) (by decide)).1
  exact ⟨gentle, h.1, found.trans closed⟩

/-- A look just after a window is over begins the next one two instants before the first call would.  That
window is over when the second call fails, so the circuit does not open and the third call passes. -/
theorem look_beginning_window_noticed :
    let t := Traffic.start { window := 10, minRequests := 2 } 0
    let failures : List (Instant × Event) := [(12, .call 0 none),
      (12, .settle 0 (.error (.unavailable "down"))), (21, .call 1 none),
      (21, .settle 1 (.error (.unavailable "down")))]
    let steps : List (Instant × Event) := (10, .observe) :: failures ++ [(21, .call 2 none)]
    InOrder 0 steps ∧ (t.run steps).isInFlight 2 = true ∧
      (t.run (withoutLooks steps)).stages 2 = .finished (.error (.opened "default")) := by
  intro t failures steps
  have without : withoutLooks steps = failures ++ [(21, .call 2 none)] := rfl
  have idle : (t.run failures).stages 2 = .idle := run_stages_other (t := t) (by decide)
  have refused : ((t.run failures).found 21).refusal? (t.run failures).breaker.settings
      = some .opened := by decide +kernel
  refine ⟨by decide, by decide +kernel, ?_⟩
  rw [without, run_append, run_cons, step_call 21 none idle, call_refused _ 21 2 none refused,
    run_name]
  exact Tasks.set_self (t.run failures).stages 2 (.finished (.error (.opened "default")))

end ProfileGuard.Breaker
