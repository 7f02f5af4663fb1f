import ProfileGuard.Audit.Producer
import ProfileGuard.Proofs.Buffer.Moves

/-!
# The moves of a producer

Each step of a producer is one of a few moves.  What the broker or the breaker makes of an event decides
between delivery and buffer; everything else goes on inside the buffer, one step of it at a time.

* **`Audit.Producer.Move`** — the moves, with what each needs and the producer it leads to.
* **`Audit.Producer.step_move`** — every step is a move.
* **`Audit.Producer.Move.buffer`** — a move is at most one step of the buffer.
* **`Audit.Producer.Move.goes`** — how an operation goes on in a move.
* **`Audit.Producer.run_reply`** — a reply that was given stays as it is.
* **`Audit.Producer.IsTied`** — the invariant: an operation that is not in the buffer has left no trace
  there.
* **`Audit.Producer.run_induction`** — what every move keeps, every run keeps.
-/

namespace ProfileGuard

namespace Audit.Producer

/-- What can happen to a producer at an instant. -/
inductive Move (now : Instant) (p : Producer) : Producer → Prop where
  /-- What cannot happen leaves everything as it is. -/
  | stay : Move now p p
  | turnAway (id : TaskId) (event : Event) (idle : p.stages id = .idle) (closed : p.closed = true) :
      Move now p (p.withStage id (.finished (.produced (.error .producerClosed))))
  | send (id : TaskId) (event : Event) (idle : p.stages id = .idle) (breaker : Breaker)
      (generation : UInt64) :
      Move now p ({ p with breaker }.withStage id
        (.sending event generation (now + p.settings.sendLimit)))
  /-- The breaker refuses an event, which goes to the buffer. -/
  | refused (id : TaskId) (event : Event) (idle : p.stages id = .idle) (breaker : Breaker) :
      Move now p ({ p with breaker }.keep now id event)
  | sent (id : TaskId) (event : Event) (generation : UInt64) (expires : Instant)
      (stage : p.stages id = .sending event generation expires) :
      Move now p (({ p with delivered := p.delivered ++ [p.message event] }.settle now generation
        true).withStage id (.finished (.produced (.ok ()))))
  /-- The broker takes an event, and the breaker breaks off. -/
  | cutOff (id : TaskId) (event : Event) (generation : UInt64) (expires : Instant)
      (stage : p.stages id = .sending event generation expires) :
      Move now p (({ p with delivered := p.delivered ++ [p.message event] }.settle now generation
        true).withStage id .dropped)
  /-- The broker fails, and the event goes to the buffer. -/
  | notSent (id : TaskId) (event : Event) (generation : UInt64) (expires : Instant)
      (stage : p.stages id = .sending event generation expires) :
      Move now p ((p.settle now generation false).keep now id event)
  | noFlush (id : TaskId) (idle : p.stages id = .idle) (breaker : Breaker) (failure : Failure) :
      Move now p ({ p with breaker }.withStage id (.finished (.flushed (.error (.broker failure)))))
  | flush (id : TaskId) (idle : p.stages id = .idle) (breaker : Breaker) :
      Move now p ({ p with
        breaker
        buffer := p.buffer.step now (.flush id p.settings.buffer.flushLimit) }.withStage id .buffering)
  | view (id : TaskId) (idle : p.stages id = .idle) :
      Move now p ({ p with buffer := p.buffer.step now (.view id) }.withStage id .buffering)
  /-- An operation goes on in the buffer. -/
  | inner (label : Buffer.Label) (inner : label.begins = false) :
      Move now p { p with buffer := p.buffer.step now label }
  | close : Move now p { p with closed := true }
  | look (breaker : Breaker) : Move now p { p with breaker }
  /-- A send is abandoned, or it fails and the breaker breaks off. -/
  | drop (id : TaskId) (event : Event) (generation : UInt64) (expires : Instant)
      (stage : p.stages id = .sending event generation expires) :
      Move now p ((p.settle now generation false).withStage id .dropped)

/-! ### Every step is a move -/

theorem produce_move (now : Instant) (p : Producer) (id : TaskId) (event : Event)
    (idle : p.stages id = .idle) : Move now p (p.produce now id event) := by
  unfold produce
  split
  · rename_i closed
    exact .turnAway id event idle closed
  · split
    · rename_i breaker generation _
      exact .send id event idle breaker generation
    · rename_i breaker _ _
      exact .refused id event idle breaker

/-- The end of a send goes on as it is meant to, or its operation is dropped. -/
theorem conclude_cases (now : Instant) (p : Producer) (id : TaskId) (generation : UInt64) (success : Bool)
    (goOn : Producer → Producer) :
    p.conclude now id generation success goOn = goOn (p.settle now generation success) ∨
      p.conclude now id generation success goOn
        = (p.settle now generation success).withStage id .dropped := by
  unfold conclude
  dsimp only
  split
  · exact .inr rfl
  · exact .inl rfl

theorem conclude_failed_move {now : Instant} {p : Producer} {id : TaskId} {event : Event}
    {generation : UInt64} {expires : Instant} (stage : p.stages id = .sending event generation expires) :
    Move now p (p.conclude now id generation false (·.keep now id event)) := by
  rcases conclude_cases now p id generation false (·.keep now id event) with h | h <;> rw [h]
  · exact .notSent id event generation expires stage
  · exact .drop id event generation expires stage

theorem flush_move (now : Instant) (p : Producer) (id : TaskId) (idle : p.stages id = .idle) :
    Move now p (p.flush now id) := by
  unfold Producer.flush
  dsimp only
  split
  · exact .noFlush id idle (p.breaker.poll now) _
  · exact .flush id idle (p.breaker.poll now)

/-- **Every step is a move.** -/
theorem step_move (now : Instant) (p : Producer) (label : Label) : Move now p (p.step now label) := by
  cases label with
  | produce id event =>
    simp only [step]
    split
    · rename_i idle
      exact produce_move now p id event idle
    · exact .stay
  | sent id result =>
    simp only [step]
    split
    · rename_i event generation expires _ stage
      rcases conclude_cases now { p with delivered := p.delivered ++ [p.message event] } id generation true
        (·.withStage id (.finished (.produced (.ok ())))) with h | h <;> rw [h]
      · exact .sent id event generation expires stage
      · exact .cutOff id event generation expires stage
    · rename_i event generation expires _ stage
      exact conclude_failed_move stage
    · exact .stay
  | sendExpired id =>
    simp only [step]
    split
    · rename_i event generation expires stage
      exact conclude_failed_move stage
    · exact .stay
  | flush id =>
    simp only [step]
    split
    · rename_i idle
      exact flush_move now p id idle
    · exact .stay
  | view id =>
    simp only [step]
    split
    · rename_i idle
      exact .view id idle
    · exact .stay
  | buffer label =>
    simp only [step]
    split
    · exact .stay
    · exact .stay
    · exact .stay
    · exact .stay
    · refine .inner label ?_
      cases label <;> simp_all [Buffer.Label.begins]
  | close => exact .close
  | observe => exact .look (p.breaker.poll now)
  | abort id =>
    simp only [step]
    split
    · rename_i event generation expires stage
      exact .drop id event generation expires stage
    · exact .inner (.abort id) rfl
    · exact .stay

/-! ### What the parts of a move change -/

section Parts

variable (p : Producer) (now : Instant) (id : TaskId)

@[simp] theorem withStage_stages (stage : Stage) :
    (p.withStage id stage).stages = p.stages.set id stage := rfl
@[simp] theorem withStage_buffer (stage : Stage) : (p.withStage id stage).buffer = p.buffer := rfl
@[simp] theorem withStage_delivered (stage : Stage) :
    (p.withStage id stage).delivered = p.delivered := rfl

@[simp] theorem settle_delivered (generation : UInt64) (success : Bool) :
    (p.settle now generation success).delivered = p.delivered := rfl

@[simp] theorem keep_stages (event : Event) :
    (p.keep now id event).stages = p.stages.set id .buffering := rfl

end Parts

variable {now : Instant} {p later : Producer}

/-- A move is at most one step of the buffer. -/
theorem Move.buffer (move : Move now p later) :
    later.buffer = p.buffer ∨ ∃ label, later.buffer = p.buffer.step now label := by
  cases move with
  | stay | turnAway | send | sent | cutOff | noFlush | close | look | drop => exact .inl rfl
  | refused id event | notSent id event => exact .inr ⟨.add id (p.bufferedEvent now event), rfl⟩
  | flush id => exact .inr ⟨.flush id p.settings.buffer.flushLimit, rfl⟩
  | view id => exact .inr ⟨.view id, rfl⟩
  | inner label => exact .inr ⟨label, rfl⟩

/-- What every step of the buffer keeps, every move keeps. -/
theorem Move.buffer_keeps {P : Buffer → Prop} (move : Move now p later)
    (step : ∀ label, P (p.buffer.step now label)) (h : P p.buffer) : P later.buffer := by
  rcases move.buffer with hsame | ⟨label, hstep⟩
  · rw [hsame]
    exact h
  · rw [hstep]
    exact step label

theorem Move.settings (move : Move now p later) : later.settings = p.settings := by
  cases move <;> rfl

/-- The message of an event depends on the settings only. -/
theorem message_congr (h : later.settings = p.settings) : later.message = p.message := by
  funext event
  simp only [message, h]

theorem bufferedEvent_congr (h : later.settings = p.settings) :
    later.bufferedEvent = p.bufferedEvent := by
  funext now event
  simp only [bufferedEvent, h]

/-- A closed producer stays closed. -/
theorem Move.closed (move : Move now p later) (h : p.closed = true) : later.closed = true := by
  cases move with
  | close => rfl
  | _ => exact h

/-- What the broker took is never forgotten. -/
theorem Move.delivered_mono (move : Move now p later) {message : Outlets.Message}
    (h : message ∈ p.delivered) : message ∈ later.delivered := by
  cases move with
  | sent id event | cutOff id event => exact List.mem_append_left _ h
  | _ => exact h

/-- Only an operation that has not begun is changed where it begins. -/
theorem stages_set_of_idle {own : TaskId} (idle : p.stages own = .idle) (stage : Stage) (id : TaskId) :
    p.stages.set own stage id = p.stages id ∨ p.stages id = .idle := by
  by_cases h : id = own
  · rw [h]
    exact .inr idle
  · exact .inl (Tasks.set_other _ _ h)

/-- How an operation goes on in a move: it stays where it is, it begins, or its send ends.  An event whose
send ends was delivered, goes to the buffer, or is abandoned with its operation. -/
theorem Move.goes (move : Move now p later) (id : TaskId) :
    later.stages id = p.stages id ∨ p.stages id = .idle ∨
      ∃ event generation expires, p.stages id = .sending event generation expires ∧
        (later.stages id = .finished (.produced (.ok ())) ∧ p.message event ∈ later.delivered ∨
          later.stages id = .buffering ∧
            later.buffer = p.buffer.step now (.add id (p.bufferedEvent now event)) ∨
          later.stages id = .dropped) := by
  cases move with
  | stay | inner | close | look => exact .inl rfl
  | turnAway own event idle | send own event idle | refused own event idle | noFlush own idle
  | flush own idle | view own idle => exact (stages_set_of_idle idle _ id).imp_right .inl
  | sent own event generation expires stage =>
    by_cases h : id = own
    · subst h
      refine .inr (.inr ⟨event, generation, expires, stage, .inl ⟨?_, ?_⟩⟩)
      · simp
      · simp
    · exact .inl (Tasks.set_other _ _ h)
  | notSent own event generation expires stage =>
    by_cases h : id = own
    · subst h
      refine .inr (.inr ⟨event, generation, expires, stage, .inr (.inl ⟨?_, rfl⟩)⟩)
      simp
    · exact .inl (Tasks.set_other _ _ h)
  | cutOff own event generation expires stage | drop own event generation expires stage =>
    by_cases h : id = own
    · subst h
      refine .inr (.inr ⟨event, generation, expires, stage, .inr (.inr ?_)⟩)
      simp
    · exact .inl (Tasks.set_other _ _ h)

/-- An operation in the buffer replies only once it is over there. -/
theorem finished_of_replyOf? {stage : Buffer.Stage} {reply : Reply} (h : replyOf? stage = some reply) :
    ∃ ending, stage = .finished ending := by
  unfold replyOf? at h
  split at h
  · exact ⟨_, rfl⟩
  · exact ⟨_, rfl⟩
  · cases h

/-- A reply that was given stays as it is. -/
theorem Move.reply_mono (move : Move now p later) {id : TaskId} {reply : Reply}
    (h : p.reply? id = some reply) : later.reply? id = some reply := by
  have same : later.stages id = p.stages id := by
    rcases move.goes id with same | idle | ⟨event, generation, expires, stage, _⟩
    · exact same
    · simp [reply?, idle] at h
    · simp [reply?, stage] at h
  unfold reply? at h ⊢
  rw [same]
  cases hstage : p.stages id with
  | finished ending =>
    rw [hstage] at h
    exact h
  | buffering =>
    rw [hstage] at h
    obtain ⟨ending, hending⟩ := finished_of_replyOf? h
    have hlater : later.buffer.stages id = .finished ending :=
      move.buffer_keeps (P := fun b => b.stages id = .finished ending)
        (fun label => (Buffer.step_move now p.buffer label).stages_finished hending) hending
    show replyOf? (later.buffer.stages id) = some reply
    rw [hlater, ← hending]
    exact h
  | idle | sending | dropped => rw [hstage] at h; cases h

/-! ### Operations outside the buffer -/

/-- An operation that is not in the buffer has left no trace there, and its reply is not the buffer's. -/
structure IsTied (p : Producer) : Prop where
  idle : ∀ id, p.stages id ≠ .buffering → p.buffer.stages id = .idle
  own : ∀ id error, p.stages id ≠ .finished (.produced (.error (.buffer error)))

/-- An operation that is not in the buffer goes to a stage of its own. -/
theorem IsTied.set (tied : p.IsTied) {id : TaskId} {stage : Stage}
    (stages : later.stages = p.stages.set id stage) (buffer : later.buffer = p.buffer)
    (outside : p.stages id ≠ .buffering)
    (own : ∀ error, stage ≠ .finished (.produced (.error (.buffer error)))) : later.IsTied := by
  constructor
  · intro other hother
    rw [buffer]
    by_cases h : other = id
    · rw [h]
      exact tied.idle id outside
    · rw [stages, Tasks.set_other _ _ h] at hother
      exact tied.idle other hother
  · intro other error
    rw [stages]
    by_cases h : other = id
    · rw [h, Tasks.set_self]
      exact own error
    · rw [Tasks.set_other _ _ h]
      exact tied.own other error

/-- An operation goes to the buffer. -/
theorem IsTied.enter (tied : p.IsTied) {id : TaskId} (now : Instant) (label : Buffer.Label)
    (stages : later.stages = p.stages.set id .buffering)
    (buffer : later.buffer = p.buffer.step now label) (own : label.task = id) : later.IsTied := by
  constructor
  · intro other hother
    have h : other ≠ id := by
      rintro rfl
      exact hother (by rw [stages, Tasks.set_self])
    rw [stages, Tasks.set_other _ _ h] at hother
    rw [buffer, (Buffer.step_move now p.buffer label).stages_other (by rw [own]; exact h)]
    exact tied.idle other hother
  · intro other error
    rw [stages]
    by_cases h : other = id
    · rw [h, Tasks.set_self]
      simp
    · rw [Tasks.set_other _ _ h]
      exact tied.own other error

/-- Every move keeps the invariant. -/
theorem IsTied.move (tied : p.IsTied) (move : Move now p later) : later.IsTied := by
  cases move with
  | stay | close | look => exact ⟨tied.idle, tied.own⟩
  | turnAway id event idle | send id event idle | noFlush id idle =>
    exact tied.set rfl rfl (by rw [idle]; simp) (by simp)
  | sent id event generation expires stage | cutOff id event generation expires stage
  | drop id event generation expires stage =>
    exact tied.set rfl rfl (by rw [stage]; simp) (by simp)
  | refused id event | notSent id event =>
    exact tied.enter now (.add id (p.bufferedEvent now event)) rfl rfl rfl
  | flush id => exact tied.enter now (.flush id p.settings.buffer.flushLimit) rfl rfl rfl
  | view id => exact tied.enter now (.view id) rfl rfl rfl
  | inner label inner =>
    refine ⟨fun id hid => ?_, tied.own⟩
    have hbefore := tied.idle id hid
    show (p.buffer.step now label).stages id = .idle
    by_cases h : id = label.task
    · subst h
      rw [Buffer.step_at_rest inner (by rw [hbefore]; trivial)]
      exact hbefore
    · rw [(Buffer.step_move now p.buffer label).stages_other h]
      exact hbefore

theorem start_isTied (settings : Settings) (breaker : Breaker) (hasSink : Bool) :
    (start settings breaker hasSink).IsTied :=
  ⟨fun _ _ => rfl, fun _ _ h => by cases h⟩

/-! ### Runs -/

theorem run_cons (p : Producer) (s : Instant × Label) (steps : List (Instant × Label)) :
    p.run (s :: steps) = (p.step s.1 s.2).run steps := rfl

theorem run_append (p : Producer) (before after : List (Instant × Label)) :
    p.run (before ++ after) = (p.run before).run after := List.foldl_append

/-- What goes on in the buffer changes the buffer only. -/
theorem run_buffer (p : Producer) {steps : List (Instant × Buffer.Label)}
    (inner : ∀ s ∈ steps, s.2.begins = false) (kept : ∀ id, ∀ s ∈ steps, s.2 ≠ .abort id) :
    p.run (steps.map fun s => (s.1, .buffer s.2)) = { p with buffer := p.buffer.run steps } := by
  induction steps generalizing p with
  | nil => rfl
  | cons s steps ih =>
    have hstep : p.step s.1 (.buffer s.2) = { p with buffer := p.buffer.step s.1 s.2 } := by
      have hinner := inner s List.mem_cons_self
      have hkept := fun id => kept id s List.mem_cons_self
      simp only [step]
      cases hlabel : s.2 with
      | add | flush | view => rw [hlabel] at hinner; cases hinner
      | abort id => exact absurd hlabel (hkept id)
      | _ => rfl
    rw [List.map_cons, run_cons, hstep,
      ih _ (fun other h => inner other (List.mem_cons_of_mem _ h))
        (fun id other h => kept id other (List.mem_cons_of_mem _ h))]
    rfl

/-- What every move keeps, every run keeps. -/
theorem run_induction {P : Producer → Prop}
    (move : ∀ now p later, P p → Move now p later → P later) {p : Producer} (h : P p)
    (steps : List (Instant × Label)) : P (p.run steps) := by
  induction steps generalizing p with
  | nil => exact h
  | cons s steps ih => exact ih (move s.1 p _ h (step_move s.1 p s.2))

theorem run_reply {p : Producer} {id : TaskId} {reply : Reply} (h : p.reply? id = some reply)
    (steps : List (Instant × Label)) : (p.run steps).reply? id = some reply :=
  run_induction (P := fun p => p.reply? id = some reply) (fun _ _ _ h move => move.reply_mono h) h steps

theorem run_settings (p : Producer) (steps : List (Instant × Label)) :
    (p.run steps).settings = p.settings :=
  run_induction (P := fun later => later.settings = p.settings)
    (fun _ _ _ h move => move.settings.trans h) rfl steps

theorem IsTied.run {p : Producer} (tied : p.IsTied) (steps : List (Instant × Label)) :
    (p.run steps).IsTied :=
  run_induction (fun _ _ _ tied move => tied.move move) tied steps

end Audit.Producer

end ProfileGuard
