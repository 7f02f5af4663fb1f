import ProfileGuard.Proofs.Audit.Moves
import ProfileGuard.Proofs.Buffer.Custody
import ProfileGuard.Proofs.Buffer.Refusals

/-!
# A producer loses no event silently

An event that is produced goes to the broker, and from there, or past it, to the buffer.  Whichever way it
takes, its operation ends well only where the event has a home.  The promise that carries the proof says at
every stage what is still owed: while the broker has the event nothing is, in the buffer the buffer's own
promise stands for it, and after the end it is the delivery itself.

* **`Audit.Producer.IsAccountedFor`** — an event was delivered, waits, or is in overflow storage.
* **`Audit.Producer.IsHonored`** — the promise to the operation that produces an event.
* **`Audit.Producer.IsHonored.run`** — the promise is kept along every run.
* **`Audit.Producer.run_countsFull`** — the metrics show how many operations a full buffer refused.
* **`Audit.Producer.produced_isAccountedFor`** — nothing that was produced is lost, every refusal is
  counted, and a closed producer does nothing.
-/

namespace ProfileGuard

/-- An add that begins is promised its event. -/
theorem Buffer.begin_isKept {b : Buffer} {id : TaskId} (idle : b.stages id = .idle) (now : Instant)
    (event : Buffer.Event) : (b.step now (.add id event)).IsKept id event := by
  simp [Buffer.step, Buffer.begin, idle, Buffer.IsKept, Buffer.Promise]

namespace Audit.Producer

/-- The broker took an event directly, or the buffer has it, has delivered it, or has handed it over. -/
def IsAccountedFor (p : Producer) (event : Event) : Prop :=
  p.message event ∈ p.delivered ∨ p.buffer.IsAccountedFor event.id.text

/-- What an operation that produces an event is promised at a stage. -/
def Promise (p : Producer) (id : TaskId) (event : Event) : Stage → Prop
  | .sending given _ _ => given = event
  | .buffering => ∃ since, p.buffer.IsKept id (p.bufferedEvent since event)
  | .finished (.produced (.ok _)) => p.message event ∈ p.delivered
  | .finished (.produced (.error _)) | .dropped => True
  | .idle | .finished (.flushed _) => False

/-- The promise to an operation that produces an event is kept. -/
def IsHonored (p : Producer) (id : TaskId) (event : Event) : Prop := p.Promise id event (p.stages id)

variable {now : Instant} {p later : Producer} {id : TaskId} {event : Event}

/-! ### The promise -/

/-- A promise rests on deliveries and on the promises of the buffer, which only grow. -/
theorem Promise.mono {stage : Stage} (settings : later.settings = p.settings)
    (delivered : p.message event ∈ p.delivered → p.message event ∈ later.delivered)
    (buffer : ∀ buffered, p.buffer.IsKept id buffered → later.buffer.IsKept id buffered)
    (h : p.Promise id event stage) : later.Promise id event stage := by
  cases stage with
  | buffering =>
    obtain ⟨since, hkept⟩ := h
    refine ⟨since, ?_⟩
    rw [bufferedEvent_congr settings]
    exact buffer _ hkept
  | finished reply =>
    cases reply with
    | produced result =>
      cases result with
      | ok _ =>
        show later.message event ∈ later.delivered
        rw [message_congr settings]
        exact delivered h
      | error _ => trivial
    | flushed _ => exact h
  | dropped => trivial
  | idle => exact h
  | sending given generation expires => exact h

theorem Move.isBacked (move : Move now p later) (backed : p.buffer.IsBacked) :
    later.buffer.IsBacked :=
  move.buffer_keeps (fun label => (Buffer.step_move now p.buffer label).isBacked backed) backed

theorem Move.isKept (move : Move now p later) (backed : p.buffer.IsBacked) {buffered : Buffer.Event}
    (kept : p.buffer.IsKept id buffered) : later.buffer.IsKept id buffered :=
  move.buffer_keeps (P := fun b => b.IsKept id buffered)
    (fun label => (Buffer.step_move now p.buffer label).isKept backed kept) kept

/-- Every move keeps the promise. -/
theorem IsHonored.move (h : p.IsHonored id event) (tied : p.IsTied) (backed : p.buffer.IsBacked)
    (move : Move now p later) : later.IsHonored id event := by
  -- only the end of a send changes what is owed; otherwise what it rests on has grown
  rcases move.goes id with same | idle | ⟨given, generation, expires, stage, hend⟩
  · rw [IsHonored, same]
    exact Promise.mono move.settings move.delivered_mono (fun _ => move.isKept backed) h
  · rw [IsHonored, idle] at h
    exact h.elim
  · have hgiven : given = event := by
      rw [IsHonored, stage] at h
      exact h
    subst hgiven
    rcases hend with ⟨hfinished, hdelivered⟩ | ⟨hbuffering, hbuffer⟩ | hdropped
    · rw [IsHonored, hfinished]
      show later.message given ∈ later.delivered
      rw [message_congr move.settings]
      exact hdelivered
    · rw [IsHonored, hbuffering]
      refine ⟨now, ?_⟩
      rw [bufferedEvent_congr move.settings, hbuffer]
      exact Buffer.begin_isKept (tied.idle id (by rw [stage]; simp)) now _
    · rw [IsHonored, hdropped]
      trivial

/-- An operation that begins to produce an event is promised that event. -/
theorem produce_isHonored (tied : p.IsTied) (idle : p.stages id = .idle) (now : Instant)
    (event : Event) : (p.step now (.produce id event)).IsHonored id event := by
  have hstep : p.step now (.produce id event) = p.produce now id event := by
    simp only [step, idle]
  rw [hstep]
  unfold produce
  split
  · simp [IsHonored, Promise]
  · split
    · simp [IsHonored, Promise]
    · rename_i breaker _ _
      have hkept := Buffer.begin_isKept (tied.idle id (by rw [idle]; simp)) now
        (p.bufferedEvent now event)
      rw [IsHonored, keep_stages, Tasks.set_self]
      exact ⟨now, hkept⟩

/-- Along every run the promise is kept. -/
theorem IsHonored.run (h : p.IsHonored id event) (tied : p.IsTied) (backed : p.buffer.IsBacked)
    (steps : List (Instant × Label)) : (p.run steps).IsHonored id event := by
  have all : (p.run steps).IsTied ∧ (p.run steps).buffer.IsBacked ∧
      (p.run steps).IsHonored id event := by
    refine run_induction (P := fun p => p.IsTied ∧ p.buffer.IsBacked ∧ p.IsHonored id event)
      ?_ ⟨tied, backed, h⟩ steps
    rintro now p later ⟨tied, backed, h⟩ move
    exact ⟨tied.move move, move.isBacked backed, h.move tied backed move⟩
  exact all.2.2

/-- An operation in the buffer has ended exactly where its add has, and in the same way. -/
theorem replyOf?_eq_produced_iff (stage : Buffer.Stage) (result : Except Buffer.Error Unit) :
    replyOf? stage = some (.produced (result.mapError .buffer)) ↔ stage = .finished (.added result) := by
  unfold replyOf?
  split
  · rename_i given
    cases given <;> cases result <;> simp [Except.mapError]
  · simp
  · rename_i hadded _
    refine iff_of_false (by simp) ?_
    rintro rfl
    exact hadded _ rfl

/-- A promise that is kept, to an operation that ended well, is a home for the event. -/
theorem IsHonored.isAccountedFor (h : p.IsHonored id event)
    (reply : p.reply? id = some (.produced (.ok ()))) : p.IsAccountedFor event := by
  unfold IsHonored at h
  unfold reply? at reply
  split at reply
  · rename_i ending stage
    obtain rfl := Option.some.inj reply
    rw [stage] at h
    exact .inl h
  · rename_i stage
    rw [stage] at h
    obtain ⟨since, hkept⟩ := h
    rw [Buffer.IsKept, (replyOf?_eq_produced_iff _ (.ok ())).mp reply] at hkept
    exact .inr hkept
  · cases reply

/-! ### Refusals -/

/-- The operations that a full buffer has refused. -/
def fullReplies (p : Producer) : Set TaskId :=
  {id | ∃ capacity, p.reply? id = some (.produced (.error (.buffer (.full capacity))))}

theorem mem_fullReplies :
    id ∈ p.fullReplies ↔
      ∃ capacity, p.reply? id = some (.produced (.error (.buffer (.full capacity)))) := Iff.rfl

/-- A full buffer refuses an operation exactly where it refuses the operation's add. -/
theorem IsTied.fullReplies_eq (tied : p.IsTied) : p.fullReplies = p.buffer.refusals := by
  ext id
  rw [mem_fullReplies, Buffer.mem_refusals]
  refine exists_congr fun capacity => ?_
  by_cases hbuffering : p.stages id = .buffering
  · rw [reply?, hbuffering]
    exact replyOf?_eq_produced_iff _ (.error (.full capacity))
  · refine iff_of_false ?_ ?_
    · intro reply
      unfold reply? at reply
      split at reply
      · rename_i ending stage
        obtain rfl := Option.some.inj reply
        exact tied.own id _ stage
      · rename_i stage
        exact hbuffering stage
      · cases reply
    · rw [tied.idle id hbuffering]
      simp

/-- The metrics show how many operations a full buffer has refused, in 64 bits. -/
structure CountsFull (p : Producer) : Prop where
  finite : p.fullReplies.Finite
  count : p.buffer.metrics.dropped.value = UInt64.ofNat p.fullReplies.ncard

theorem Move.countsRefusals (move : Move now p later) (h : p.buffer.CountsRefusals) :
    later.buffer.CountsRefusals :=
  move.buffer_keeps (fun label => h.move (Buffer.step_move now p.buffer label)) h

/-- Along every run the count is right. -/
theorem run_countsFull (tied : p.IsTied) (h : p.buffer.CountsRefusals)
    (steps : List (Instant × Label)) : (p.run steps).CountsFull := by
  have all : (p.run steps).IsTied ∧ (p.run steps).buffer.CountsRefusals := by
    refine run_induction (P := fun p => p.IsTied ∧ p.buffer.CountsRefusals) ?_ ⟨tied, h⟩ steps
    rintro now p later ⟨tied, h⟩ move
    exact ⟨tied.move move, move.countsRefusals h⟩
  obtain ⟨htied, hcounts⟩ := all
  constructor
  · rw [htied.fullReplies_eq]
    exact hcounts.finite
  · rw [htied.fullReplies_eq]
    exact hcounts.count

/-! ### A closed producer -/

/-- A closed producer stays closed. -/
theorem run_closed (h : p.closed = true) (steps : List (Instant × Label)) :
    (p.run steps).closed = true :=
  run_induction (P := fun p => p.closed = true) (fun _ _ _ h move => move.closed h) h steps

/-- A closed producer answers at once, and does nothing else. -/
theorem produce_of_closed (closed : p.closed = true) (idle : p.stages id = .idle) (now : Instant)
    (event : Event) :
    p.step now (.produce id event) =
      p.withStage id (.finished (.produced (.error .producerClosed))) := by
  simp only [step, idle, produce, closed, if_true]

/-! ### Custody -/

theorem start_run_isBacked (settings : Settings) (breaker : Breaker) (hasSink : Bool)
    (steps : List (Instant × Label)) :
    ((start settings breaker hasSink).run steps).buffer.IsBacked :=
  run_induction (P := fun p => p.buffer.IsBacked) (fun _ _ _ backed move => move.isBacked backed)
    (Buffer.start_isBacked settings.buffer hasSink true) steps

/-- **No event is lost silently.**  However sends, flushes, closings and operations on the buffer overlap,
whatever the broker, the breaker and overflow storage do, and wherever operations are abandoned:

* an operation that ended well has its event delivered, in the buffer, or in overflow storage;
* the metrics count the operations that a full buffer refused;
* an operation that begins after a closing is told so, and changes nothing but its own stage. -/
theorem produced_isAccountedFor (settings : Settings) (breaker : Breaker) (hasSink : Bool) :
    let p := start settings breaker hasSink
    (∀ (before after : List (Instant × Label)) (now : Instant) (id : TaskId) (event : Event),
      (p.run before).stages id = .idle →
      (p.run (before ++ (now, .produce id event) :: after)).reply? id = some (.produced (.ok ())) →
      (p.run (before ++ (now, .produce id event) :: after)).IsAccountedFor event) ∧
    (∀ steps : List (Instant × Label), (p.run steps).CountsFull) ∧
    ∀ (before between after : List (Instant × Label)) (closing now : Instant) (id : TaskId)
      (event : Event),
      let closed := p.run (before ++ (closing, .close) :: between)
      closed.stages id = .idle →
      closed.step now (.produce id event) =
          { closed with
            stages := closed.stages.set id (.finished (.produced (.error .producerClosed))) } ∧
        ((closed.step now (.produce id event)).run after).reply? id =
          some (.produced (.error .producerClosed)) := by
  refine ⟨?_, ?_, ?_⟩
  · intro before after now id event idle reply
    rw [run_append, run_cons] at reply ⊢
    have tied := (start_isTied settings breaker hasSink).run before
    have backed := start_run_isBacked settings breaker hasSink before
    have move := step_move now ((start settings breaker hasSink).run before) (.produce id event)
    have honored := produce_isHonored tied idle now event
    exact (honored.run (tied.move move) (move.isBacked backed) after).isAccountedFor reply
  · intro steps
    exact run_countsFull (start_isTied settings breaker hasSink)
      (Buffer.start_countsRefusals settings.buffer hasSink true) steps
  · intro before between after closing now id event closed idle
    have hclosed : closed.closed = true := by
      show (Producer.run _ (before ++ (closing, .close) :: between)).closed = true
      rw [run_append, run_cons]
      exact run_closed rfl between
    have hstep := produce_of_closed hclosed idle now event
    refine ⟨hstep, run_reply ?_ after⟩
    rw [hstep]
    simp [reply?]

/-- A producer with room for one event: the broker fails, is late and fails again, storage fails once and
then takes the content of the buffer; a send is abandoned, and the producer is closed. -/
theorem produced_isAccountedFor_through_outage :
    let event (n : Nat) : Event := ⟨⟨BitVec.ofNat 128 n⟩, .clockStart, "user", "actor", .user, .access,
      .profile, none, [], "", "request", none, .success, none, ""⟩
    let p := start { buffer := { capacity := 1 } } (Breaker.start {} 0) true
    let before : List (Instant × Label) :=
      [(0, .produce 0 (event 0)), (0, .sent 0 (.error (.transport "down"))), (0, .buffer (.resume 0)),
        (1, .produce 1 (event 1)), (6000000000, .sendExpired 1), (6000000000, .buffer (.resume 1)),
        (6000000001, .buffer (.stored 1 (.error (.storage "down"))))]
    let after : List (Instant × Label) :=
      [(6000000002, .sent 2 (.error (.transport "down"))), (6000000002, .buffer (.resume 2)),
        (6000000003, .produce 3 (event 3)), (6000000004, .buffer (.stored 2 (.ok ()))),
        (6000000005, .abort 3)]
    let steps := before ++ (6000000002, .produce 2 (event 2)) :: after
    let closed := p.run (steps ++ [(6000000006, .close)])
    (p.run steps).reply? 2 = some (.produced (.ok ())) ∧ (p.run steps).IsAccountedFor (event 2) ∧
      (p.run steps).buffer.metrics.dropped.value = 1 ∧ (p.run steps).CountsFull ∧
      closed.step 6000000007 (.produce 4 (event 4)) =
          { closed with
            stages := closed.stages.set 4 (.finished (.produced (.error .producerClosed))) } ∧
        (closed.step 6000000007 (.produce 4 (event 4))).reply? 4 =
          some (.produced (.error .producerClosed)) :=
  ⟨rfl, (produced_isAccountedFor _ _ _).1 _ _ _ _ _ rfl rfl, rfl,
    (produced_isAccountedFor _ _ _).2.1 _, (produced_isAccountedFor _ _ _).2.2 _ _ [] _ _ _ _ rfl⟩

end Audit.Producer

end ProfileGuard
