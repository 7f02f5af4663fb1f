import ProfileGuard.Buffer.Basic

/-!
# The moves of a buffer

Each step of a buffer is one of a few moves of one operation.  A move names the stage that the operation
must be at and what else it needs, and gives the buffer it leads to; proofs about runs go by these moves
and never open `step` again.

* **`Buffer.Move`** — the moves of one operation.
* **`Buffer.step_move`** — every step is a move of the operation that its label names.
* **`Buffer.Move.stages_other`** — a move changes the stage of its own operation only.
* **`Buffer.Goes`** / **`Buffer.Move.goes`** — from which stage to which its own operation goes.
* **`Buffer.step_at_rest`** — nothing goes on with an operation that has not begun or is over.
* **`Buffer.step_holds_or_begins`** — what is under way was so before, or has just begun.
* **`Buffer.run_induction`** — what every move keeps, every run keeps.
-/

namespace ProfileGuard.Buffer

/-- The operation that a label is about. -/
def Label.task : Label → TaskId
  | add id _ | flush id _ | view id | resume id | stored id _ | storeExpired id | sent id _
  | sendExpired id | abort id => id

/-- What one operation can do to a buffer at an instant. -/
inductive Move (now : Instant) (b : Buffer) (id : TaskId) : Buffer → Prop where
  /-- What cannot happen leaves everything as it is. -/
  | stay : Move now b id b
  | add (event : Event) (idle : b.stages id = .idle) :
      Move now b id { b.withStage id (.adding event) with lock := b.lock.request id }
  | view (idle : b.stages id = .idle) :
      Move now b id { b.withStage id .viewing with lock := b.lock.request id }
  | flush (limit : Duration) (idle : b.stages id = .idle) (transport : b.hasTransport = true) :
      Move now b id { b.withStage id (.flushing limit) with flushLock := b.flushLock.request id }
  | noTransport (idle : b.stages id = .idle) (transport : b.hasTransport = false) :
      Move now b id (b.withStage id (.finished (.flushed (.error .noTransport))))
  /-- An event of a known identifier is accepted as it is. -/
  | known (event : Event) (stage : b.stages id = .adding event) (held : b.lock.isHeldBy id)
      (known : ∃ other ∈ b.events, other.id = event.id) : Move now b id (b.endAdd id (.ok ()))
  | put (event : Event) (stage : b.stages id = .adding event) (held : b.lock.isHeldBy id)
      (fresh : ∀ other ∈ b.events, other.id ≠ event.id)
      (room : b.events.length < b.settings.capacity ∨ b.hasSink = false) :
      Move now b id (b.appendOrReject id event)
  | spill (event : Event) (stage : b.stages id = .adding event) (held : b.lock.isHeldBy id)
      (fresh : ∀ other ∈ b.events, other.id ≠ event.id)
      (full : b.settings.capacity ≤ b.events.length) (sink : b.hasSink = true) :
      Move now b id (b.withStage id (.spilling event (now + b.settings.persistLimit)))
  | stored (event : Event) (expires : Instant) (stage : b.stages id = .spilling event expires) :
      Move now b id (b.spilled.appendOrReject id event)
  | notStored (event : Event) (expires : Instant) (stage : b.stages id = .spilling event expires) :
      Move now b id (b.appendOrReject id event)
  | read (limit : Duration) (stage : b.stages id = .flushing limit)
      (held : b.flushLock.isHeldBy id) :
      Move now b id { b.withStage id (.reading limit) with lock := b.lock.request id }
  | snapshot (limit : Duration) (stage : b.stages id = .reading limit)
      (held : b.lock.isHeldBy id) : Move now b id (b.snapshot now id limit)
  | sent (d : Delivery) (event : Event) (rest : List Event) (stage : b.stages id = .sending d)
      (remaining : d.remaining = event :: rest) :
      Move now b id ({ b with delivered := b.delivered ++ [event] }.goOn id
        (d.after event rest (.ok ())))
  | notSent (d : Delivery) (event : Event) (rest : List Event) (error : Failure)
      (stage : b.stages id = .sending d) (remaining : d.remaining = event :: rest) :
      Move now b id (b.goOn id (d.after event rest (.error error)))
  | late (d : Delivery) (stage : b.stages id = .sending d) :
      Move now b id (b.requestClose id { d with cancelled := true })
  | close (d : Delivery) (stage : b.stages id = .closing d) (held : b.lock.isHeldBy id) :
      Move now b id (b.close id d)
  | viewed (stage : b.stages id = .viewing) (held : b.lock.isHeldBy id) :
      Move now b id { b.withStage id (.finished (.viewed b.events)) with lock := b.lock.release }
  /-- An operation under way is abandoned. -/
  | drop (active : ∀ reply, b.stages id ≠ .finished reply) : Move now b id (b.abort id)

/-! ### Every step is a move -/

theorem begin_add_move (now : Instant) (b : Buffer) (id : TaskId) (event : Event) :
    Move now b id (b.begin id (.adding event)) := by
  unfold begin
  split
  · rename_i heq; cases heq
  · rename_i idle _; exact .add event idle
  · exact .stay

theorem begin_view_move (now : Instant) (b : Buffer) (id : TaskId) :
    Move now b id (b.begin id .viewing) := by
  unfold begin
  split
  · rename_i heq; cases heq
  · rename_i idle _; exact .view idle
  · exact .stay

theorem begin_flush_move (now : Instant) (b : Buffer) (id : TaskId) (limit : Duration) :
    Move now b id (b.begin id (.flushing limit)) := by
  unfold begin
  split
  · rename_i idle heq
    cases heq
    split
    · rename_i transport; exact .flush limit idle transport
    · rename_i transport; exact .noTransport idle (by simpa using transport)
  · rename_i hne; exact absurd rfl (hne limit)
  · exact .stay

theorem place_move (now : Instant) (b : Buffer) (id : TaskId) (event : Event)
    (stage : b.stages id = .adding event) (held : b.lock.isHeldBy id) :
    Move now b id (b.place now id event) := by
  unfold place
  split
  · rename_i hany
    exact .known event stage held (by simpa using hany)
  · rename_i hany
    have fresh : ∀ other ∈ b.events, other.id ≠ event.id := by simpa using hany
    split
    · rename_i hroom
      exact .put event stage held fresh (by simpa using hroom)
    · rename_i hroom
      have hfull : b.settings.capacity ≤ b.events.length ∧ b.hasSink = true := by
        simpa using hroom
      exact .spill event stage held fresh hfull.1 hfull.2

theorem resume_move (now : Instant) (b : Buffer) (id : TaskId) :
    Move now b id (b.resume now id) := by
  unfold resume
  split
  · rename_i event stage
    split
    · rename_i held; exact place_move now b id event stage held
    · exact .stay
  · rename_i limit stage
    split
    · rename_i held; exact .read limit stage held
    · exact .stay
  · rename_i limit stage
    split
    · rename_i held; exact .snapshot limit stage held
    · exact .stay
  · rename_i d stage
    split
    · rename_i held; exact .close d stage held
    · exact .stay
  · rename_i stage
    split
    · rename_i held; exact .viewed stage held
    · exact .stay
  · exact .stay

theorem abort_move (now : Instant) (b : Buffer) (id : TaskId) : Move now b id (b.abort id) := by
  by_cases h : ∃ reply, b.stages id = .finished reply
  · obtain ⟨reply, h⟩ := h
    rw [abort, h]
    exact .stay
  · exact .drop fun reply hreply => h ⟨reply, hreply⟩

/-- **Every step is a move** of the operation that its label names. -/
theorem step_move (now : Instant) (b : Buffer) (label : Label) :
    Move now b label.task (b.step now label) := by
  cases label with
  | add id event => exact begin_add_move now b id event
  | flush id limit => exact begin_flush_move now b id limit
  | view id => exact begin_view_move now b id
  | resume id => exact resume_move now b id
  | stored id result =>
    show Move now b id _
    simp only [step]
    split
    · rename_i event expires _ stage; exact .stored event expires stage
    · rename_i event expires _ stage; exact .notStored event expires stage
    · exact .stay
  | storeExpired id =>
    show Move now b id _
    simp only [step]
    split
    · rename_i event expires stage; exact .notStored event expires stage
    · exact .stay
  | sent id result =>
    show Move now b id _
    simp only [step]
    split
    · rename_i d stage
      split
      · rename_i event rest _ remaining; exact .sent d event rest stage remaining
      · rename_i event rest error remaining; exact .notSent d event rest error stage remaining
      · exact .stay
    · exact .stay
  | sendExpired id =>
    show Move now b id _
    simp only [step]
    split
    · rename_i d stage; exact .late d stage
    · exact .stay
  | abort id => exact abort_move now b id

/-! ### What the parts of a move change

Most parts of a move leave the events in the buffer and the two histories alone. -/

section Parts

variable (b : Buffer) (now : Instant) (id : TaskId)

@[simp] theorem withStage_events (stage : Stage) : (b.withStage id stage).events = b.events := rfl
@[simp] theorem withStage_delivered (stage : Stage) :
    (b.withStage id stage).delivered = b.delivered := rfl
@[simp] theorem withStage_persisted (stage : Stage) :
    (b.withStage id stage).persisted = b.persisted := rfl
@[simp] theorem withStage_stages (stage : Stage) :
    (b.withStage id stage).stages = b.stages.set id stage := rfl

@[simp] theorem endAdd_events (result : Except Error Unit) :
    (b.endAdd id result).events = b.events := rfl
@[simp] theorem endAdd_delivered (result : Except Error Unit) :
    (b.endAdd id result).delivered = b.delivered := rfl
@[simp] theorem endAdd_persisted (result : Except Error Unit) :
    (b.endAdd id result).persisted = b.persisted := rfl
@[simp] theorem endAdd_stages (result : Except Error Unit) :
    (b.endAdd id result).stages = b.stages.set id (.finished (.added result)) := rfl

@[simp] theorem spilled_events : b.spilled.events = [] := rfl
@[simp] theorem spilled_delivered : b.spilled.delivered = b.delivered := rfl
@[simp] theorem spilled_persisted : b.spilled.persisted = b.persisted ++ b.events := rfl
@[simp] theorem spilled_stages : b.spilled.stages = b.stages := rfl

@[simp] theorem requestClose_events (d : Delivery) : (b.requestClose id d).events = b.events := rfl
@[simp] theorem requestClose_delivered (d : Delivery) :
    (b.requestClose id d).delivered = b.delivered := rfl
@[simp] theorem requestClose_persisted (d : Delivery) :
    (b.requestClose id d).persisted = b.persisted := rfl
@[simp] theorem requestClose_stages (d : Delivery) :
    (b.requestClose id d).stages = b.stages.set id (.closing d) := rfl

@[simp] theorem goOn_events (d : Delivery) : (b.goOn id d).events = b.events := by
  unfold goOn; split <;> rfl
@[simp] theorem goOn_delivered (d : Delivery) : (b.goOn id d).delivered = b.delivered := by
  unfold goOn; split <;> rfl
@[simp] theorem goOn_persisted (d : Delivery) : (b.goOn id d).persisted = b.persisted := by
  unfold goOn; split <;> rfl

@[simp] theorem snapshot_events (limit : Duration) :
    (b.snapshot now id limit).events = b.events := by
  unfold snapshot; dsimp only; split <;> rfl
@[simp] theorem snapshot_delivered (limit : Duration) :
    (b.snapshot now id limit).delivered = b.delivered := by
  unfold snapshot; dsimp only; split <;> rfl
@[simp] theorem snapshot_persisted (limit : Duration) :
    (b.snapshot now id limit).persisted = b.persisted := by
  unfold snapshot; dsimp only; split <;> rfl

@[simp] theorem abort_events : (b.abort id).events = b.events := by
  unfold abort; split <;> rfl
@[simp] theorem abort_delivered : (b.abort id).delivered = b.delivered := by
  unfold abort; split <;> rfl
@[simp] theorem abort_persisted : (b.abort id).persisted = b.persisted := by
  unfold abort; split <;> rfl

/-- An event is appended as the last one, or it is refused and nothing changes. -/
theorem appendOrReject_cases (event : Event) :
    b.appendOrReject id event = b.append id event ∨ b.appendOrReject id event = b.reject id := by
  unfold appendOrReject
  split
  · exact .inl rfl
  · exact .inr rfl

/-- An add that appends its event or is refused is over. -/
theorem appendOrReject_stage (event : Event) :
    ∃ result, (b.appendOrReject id event).stages
      = b.stages.set id (.finished (.added result)) := by
  rcases appendOrReject_cases b id event with h | h
  · exact ⟨.ok (), by rw [h]; rfl⟩
  · rw [h]
    exact ⟨_, rfl⟩

@[simp] theorem appendOrReject_delivered (event : Event) :
    (b.appendOrReject id event).delivered = b.delivered := by
  rcases appendOrReject_cases b id event with h | h <;> rw [h] <;> rfl
@[simp] theorem appendOrReject_persisted (event : Event) :
    (b.appendOrReject id event).persisted = b.persisted := by
  rcases appendOrReject_cases b id event with h | h <;> rw [h] <;> rfl

/-- What a flush leaves in the buffer: all but the events it delivered, in their order. -/
theorem close_events (d : Delivery) :
    (b.close id d).events
      = (b.events.filter fun event => !d.delivered.contains event.id).map (retried d.failed) := rfl
@[simp] theorem close_delivered (d : Delivery) : (b.close id d).delivered = b.delivered := rfl
@[simp] theorem close_persisted (d : Delivery) : (b.close id d).persisted = b.persisted := rfl
@[simp] theorem close_stages (d : Delivery) :
    (b.close id d).stages = b.stages.set id (.finished (.flushed d.result)) := rfl

/-- A failed delivery changes nothing of an event but its retries. -/
theorem id_retried (failed : List String) (event : Event) : (retried failed event).id = event.id := by
  unfold retried
  split <;> rfl

theorem map_retried_nil (events : List Event) : events.map (retried []) = events :=
  List.map_id'' (fun event => by simp [retried]) events

/-- A flush that goes on sends its next event, or asks for the lock to close. -/
theorem goOn_stage (d : Delivery) :
    ∃ stage, (stage = .sending d ∨ stage = .closing d) ∧
      (b.goOn id d).stages = b.stages.set id stage := by
  unfold goOn
  split
  · exact ⟨_, .inr rfl, rfl⟩
  · exact ⟨_, .inl rfl, rfl⟩

/-- A flush that has its snapshot is over, or has yet to deliver what the buffer holds, or breaks off. -/
theorem snapshot_stage (limit : Duration) :
    (∃ result, (b.snapshot now id limit).stages
        = b.stages.set id (.finished (.flushed result))) ∨
      (∃ d, d.delivered = [] ∧ d.remaining = b.events ∧
        (b.snapshot now id limit).stages = b.stages.set id (.sending d)) ∨
      (b.snapshot now id limit).stages = b.stages.set id .dropped := by
  unfold snapshot
  dsimp only
  split
  · exact .inl ⟨_, rfl⟩
  · exact .inr (.inl ⟨_, rfl, rfl, rfl⟩)
  · exact .inr (.inr rfl)

/-- An operation under way is dropped; otherwise nothing happens. -/
theorem abort_stage : b.abort id = b ∨ (b.abort id).stages = b.stages.set id .dropped := by
  unfold abort
  split <;> first | exact .inl rfl | exact .inr rfl

end Parts

/-- A move changes the stage of its own operation only. -/
theorem Move.stages_other {now : Instant} {b later : Buffer} {id other : TaskId}
    (move : Move now b id later) (h : other ≠ id) : later.stages other = b.stages other := by
  cases move with
  | stay => rfl
  | put event | notStored event =>
    obtain ⟨_, hstages⟩ := appendOrReject_stage b id event
    rw [hstages]
    exact Tasks.set_other _ _ h
  | stored event =>
    obtain ⟨_, hstages⟩ := appendOrReject_stage b.spilled id event
    rw [hstages]
    exact Tasks.set_other _ _ h
  | snapshot limit =>
    rcases snapshot_stage b now id limit with ⟨_, hstages⟩ | ⟨_, _, _, hstages⟩ | hstages <;>
      rw [hstages] <;> exact Tasks.set_other _ _ h
  | sent d event rest =>
    obtain ⟨_, _, hstages⟩ := goOn_stage { b with delivered := b.delivered ++ [event] } id
      (d.after event rest (.ok ()))
    rw [hstages]
    exact Tasks.set_other _ _ h
  | notSent d event rest error =>
    obtain ⟨_, _, hstages⟩ := goOn_stage b id (d.after event rest (.error error))
    rw [hstages]
    exact Tasks.set_other _ _ h
  | drop =>
    rcases abort_stage b id with hsame | hstages
    · rw [hsame]
    · rw [hstages]
      exact Tasks.set_other _ _ h
  | _ => exact Tasks.set_other _ _ h

/-- How the operation that moves goes on: from stage to stage, until it is over or dropped.  A snapshot is
the content of the buffer, and a flush leaves it one event after the other. -/
inductive Goes (b : Buffer) : Stage → Stage → Prop where
  | stay (stage : Stage) : Goes b stage stage
  | add (event : Event) : Goes b .idle (.adding event)
  | view : Goes b .idle .viewing
  | flush (limit : Duration) : Goes b .idle (.flushing limit)
  | spill (event : Event) (expires : Instant) : Goes b (.adding event) (.spilling event expires)
  | read (limit : Duration) : Goes b (.flushing limit) (.reading limit)
  | snapshot (limit : Duration) (d : Delivery) (delivered : d.delivered = [])
      (remaining : d.remaining = b.events) : Goes b (.reading limit) (.sending d)
  | tried (d : Delivery) (event : Event) (rest : List Event) (result : Except Failure Unit)
      (remaining : d.remaining = event :: rest) (stage : Stage)
      (own : stage = .sending (d.after event rest result) ∨
        stage = .closing (d.after event rest result)) : Goes b (.sending d) stage
  | late (d : Delivery) : Goes b (.sending d) (.closing { d with cancelled := true })
  | finish (stage : Stage) (reply : Reply) : Goes b stage (.finished reply)
  | drop (stage : Stage) : Goes b stage .dropped

theorem Move.goes {now : Instant} {b later : Buffer} {id : TaskId} (move : Move now b id later) :
    b.Goes (b.stages id) (later.stages id) := by
  cases move with
  | stay => exact .stay _
  | add event idle => rw [idle]; simpa using Goes.add event
  | view idle => rw [idle]; simpa using Goes.view
  | flush limit idle => rw [idle]; simpa using Goes.flush limit
  | spill event stage => rw [stage]; simpa using Goes.spill event _
  | read limit stage => rw [stage]; simpa using Goes.read limit
  | put event | notStored event =>
    obtain ⟨_, hstages⟩ := appendOrReject_stage b id event
    rw [hstages, Tasks.set_self]
    exact .finish _ _
  | stored event =>
    obtain ⟨_, hstages⟩ := appendOrReject_stage b.spilled id event
    rw [hstages, Tasks.set_self]
    exact .finish _ _
  | snapshot limit stage =>
    rw [stage]
    rcases snapshot_stage b now id limit with
      ⟨_, hstages⟩ | ⟨d, hdelivered, hremaining, hstages⟩ | hstages
    · rw [hstages, Tasks.set_self]
      exact .finish _ _
    · rw [hstages, Tasks.set_self]
      exact .snapshot limit d hdelivered hremaining
    · rw [hstages, Tasks.set_self]
      exact .drop _
  | sent d event rest stage remaining =>
    obtain ⟨own, hown, hstages⟩ := goOn_stage { b with delivered := b.delivered ++ [event] } id
      (d.after event rest (.ok ()))
    rw [hstages, Tasks.set_self, stage]
    exact .tried d event rest (.ok ()) remaining own hown
  | notSent d event rest error stage remaining =>
    obtain ⟨own, hown, hstages⟩ := goOn_stage b id (d.after event rest (.error error))
    rw [hstages, Tasks.set_self, stage]
    exact .tried d event rest (.error error) remaining own hown
  | late d stage => rw [stage]; simpa using Goes.late d
  | drop =>
    rcases abort_stage b id with hsame | hstages
    · rw [hsame]
      exact .stay _
    · rw [hstages, Tasks.set_self]
      exact .drop _
  | noTransport | known | close | viewed => simpa using Goes.finish _ _

/-! ### Operations at rest -/

/-- Whether a label begins an operation. -/
def Label.begins : Label → Bool
  | add .. | flush .. | view .. => true
  | _ => false

/-- An operation has not begun, or is over. -/
def Stage.IsAtRest : Stage → Prop
  | idle | finished _ | dropped => True
  | _ => False

/-- Nothing goes on with an operation at rest. -/
theorem step_at_rest {now : Instant} {b : Buffer} {label : Label} (inner : label.begins = false)
    (rest : (b.stages label.task).IsAtRest) : b.step now label = b := by
  cases label with
  | add | flush | view => cases inner
  | resume id | stored id result | storeExpired id | sent id result | sendExpired id | abort id =>
    change (b.stages id).IsAtRest at rest
    cases hstage : b.stages id with
    | idle | finished | dropped => simp [step, resume, abort, hstage]
    | _ => rw [hstage] at rest; exact rest.elim

/-- Of a property that no operation takes on under way: an operation that has it after a step had it before,
or the step begins the operation. -/
theorem step_holds_or_begins {P : Stage → Prop} {now : Instant} {b : Buffer} {label : Label}
    {task : TaskId} (back : ∀ stage next, b.Goes stage next → stage ≠ .idle → P next → P stage)
    (h : P ((b.step now label).stages task)) :
    P (b.stages task) ∨ (task = label.task ∧ b.stages task = .idle ∧ label.begins = true) := by
  by_cases htask : task = label.task
  · by_cases idle : b.stages task = .idle
    · cases begins : label.begins with
      | true => exact .inr ⟨htask, idle, rfl⟩
      | false =>
        rw [step_at_rest begins (by rw [← htask, idle]; trivial)] at h
        exact .inl h
    · subst htask
      exact .inl (back _ _ (step_move now b label).goes idle h)
  · rw [(step_move now b label).stages_other htask] at h
    exact .inl h

/-- What has ended stays as it ended. -/
theorem Move.stages_finished {now : Instant} {b later : Buffer} {id task : TaskId} {reply : Reply}
    (move : Move now b id later) (h : b.stages task = .finished reply) :
    later.stages task = .finished reply := by
  by_cases htask : task = id
  · subst htask
    cases move with
    | stay => exact h
    | drop active => exact absurd h (active reply)
    | _ => simp_all
  · rw [move.stages_other htask]
    exact h

/-! ### Runs -/

theorem run_cons (b : Buffer) (s : Instant × Label) (steps : List (Instant × Label)) :
    b.run (s :: steps) = (b.step s.1 s.2).run steps := rfl

theorem run_append (b : Buffer) (before after : List (Instant × Label)) :
    b.run (before ++ after) = (b.run before).run after := List.foldl_append

/-- What every move keeps, every run keeps. -/
theorem run_induction {P : Buffer → Prop}
    (move : ∀ now b id later, P b → Move now b id later → P later) {b : Buffer} (h : P b)
    (steps : List (Instant × Label)) : P (b.run steps) := by
  induction steps generalizing b with
  | nil => exact h
  | cons s steps ih => exact ih (move s.1 b s.2.task _ h (step_move s.1 b s.2))

/-- Nothing goes on with an operation at rest along its own steps. -/
theorem run_at_rest {b : Buffer} {id : TaskId} (rest : (b.stages id).IsAtRest)
    {steps : List (Instant × Label)} (own : ∀ s ∈ steps, s.2.task = id ∧ s.2.begins = false) :
    b.run steps = b := by
  induction steps with
  | nil => rfl
  | cons s steps ih =>
    obtain ⟨htask, hinner⟩ := own s List.mem_cons_self
    rw [run_cons, step_at_rest hinner (by rw [htask]; exact rest)]
    exact ih fun other h => own other (List.mem_cons_of_mem _ h)

end ProfileGuard.Buffer
