import ProfileGuard.Proofs.Buffer.Moves

/-!
# A buffer loses nothing that it accepted

An event leaves the buffer in two ways: a flush takes it out because it was delivered, or a spill takes
it out because overflow storage has it.  A flush works on a snapshot, and what it takes out is named by
identifiers only; the buffer may have changed in any way meanwhile.  What carries the proof is that the
identifiers a flush collects were all delivered, at whatever moment they are used.

* **`Buffer.IsAccountedFor`** — an event of an identifier waits, was delivered, or is in overflow
  storage.
* **`Buffer.IsBacked`** — the invariant: whatever a flush under way names as delivered was delivered.
* **`Buffer.accepted_isAccountedFor`** — along every run, whatever was accepted is accounted for.
-/

namespace ProfileGuard.Buffer

/-- An event of an identifier waits in the buffer, was delivered, or is in overflow storage. -/
def IsAccountedFor (b : Buffer) (id : String) : Prop :=
  (∃ event ∈ b.events, event.id = id) ∨ (∃ event ∈ b.delivered, event.id = id) ∨
    ∃ event ∈ b.persisted, event.id = id

/-- The delivery that a flush is at. -/
def Stage.delivery? : Stage → Option Delivery
  | sending d | closing d => some d
  | _ => none

/-- Whatever a flush under way names as delivered was delivered. -/
def IsBacked (b : Buffer) : Prop :=
  ∀ task d, (b.stages task).delivery? = some d →
    ∀ id ∈ d.delivered, ∃ event ∈ b.delivered, event.id = id

/-! ### The invariant -/

/-- Deliveries are never forgotten. -/
theorem Move.delivered_mono {now : Instant} {b later : Buffer} {id : TaskId}
    (move : Move now b id later) {event : Event} (h : event ∈ b.delivered) :
    event ∈ later.delivered := by
  cases move with
  | sent d sent rest => simp [h]
  | _ => simpa using h

/-- What overflow storage took is never forgotten. -/
theorem Move.persisted_mono {now : Instant} {b later : Buffer} {id : TaskId}
    (move : Move now b id later) {event : Event} (h : event ∈ b.persisted) :
    event ∈ later.persisted := by
  cases move with
  | stored => simp [h]
  | _ => simpa using h

/-- What a move adds to the identifiers that its own flush names as delivered is delivered by that
very move. -/
theorem Move.delivery_own {now : Instant} {b later : Buffer} {id : TaskId}
    (move : Move now b id later) {d : Delivery} (h : (later.stages id).delivery? = some d)
    {name : String} (hname : name ∈ d.delivered) :
    (∃ event ∈ later.delivered, event.id = name) ∨
      ∃ d', (b.stages id).delivery? = some d' ∧ name ∈ d'.delivered := by
  cases move with
  | stay => exact .inr ⟨d, h, hname⟩
  | put event stage | notStored event expires stage =>
    obtain ⟨_, hstages⟩ := appendOrReject_stage b id event
    rw [hstages, Tasks.set_self] at h
    cases h
  | stored event expires stage =>
    obtain ⟨_, hstages⟩ := appendOrReject_stage b.spilled id event
    rw [hstages, Tasks.set_self] at h
    cases h
  | snapshot limit stage held =>
    rcases snapshot_stage b now id limit with ⟨_, h'⟩ | ⟨_, hnone, _, h'⟩ | h'
    · rw [h', Tasks.set_self] at h
      cases h
    · rw [h', Tasks.set_self] at h
      obtain rfl := Option.some.inj h
      rw [hnone] at hname
      cases hname
    · rw [h', Tasks.set_self] at h
      cases h
  | sent d' event rest stage remaining =>
    have hd : d = d'.after event rest (.ok ()) := by
      obtain ⟨own, hown, hstages⟩ := goOn_stage { b with delivered := b.delivered ++ [event] } id
        (d'.after event rest (.ok ()))
      rw [hstages, Tasks.set_self] at h
      rcases hown with rfl | rfl <;> exact (Option.some.inj h).symm
    rw [hd] at hname
    rcases List.mem_insert_iff.mp hname with rfl | hname
    · exact .inl ⟨event, by simp, rfl⟩
    · exact .inr ⟨d', by rw [stage]; rfl, hname⟩
  | notSent d' event rest error stage remaining =>
    have hd : d = d'.after event rest (.error error) := by
      obtain ⟨own, hown, hstages⟩ := goOn_stage b id (d'.after event rest (.error error))
      rw [hstages, Tasks.set_self] at h
      rcases hown with rfl | rfl <;> exact (Option.some.inj h).symm
    rw [hd] at hname
    exact .inr ⟨d', by rw [stage]; rfl, hname⟩
  | late d' stage =>
    have hd : some { d' with cancelled := true } = some d := by simpa [Stage.delivery?] using h
    obtain rfl := Option.some.inj hd
    exact .inr ⟨d', by rw [stage]; rfl, hname⟩
  | drop active =>
    rcases abort_stage b id with h' | h'
    · rw [h'] at h
      exact .inr ⟨d, h, hname⟩
    · rw [h', Tasks.set_self] at h
      cases h
  | _ => simp [Stage.delivery?] at h

/-- Every move keeps the invariant. -/
theorem Move.isBacked {now : Instant} {b later : Buffer} {id : TaskId}
    (move : Move now b id later) (h : b.IsBacked) : later.IsBacked := by
  have grown : ∀ name, (∃ event ∈ b.delivered, event.id = name) →
      ∃ event ∈ later.delivered, event.id = name := by
    rintro name ⟨event, hevent, hid⟩
    exact ⟨event, move.delivered_mono hevent, hid⟩
  intro task d hd name hname
  by_cases htask : task = id
  · subst htask
    rcases move.delivery_own hd hname with hnew | ⟨d', hd', hname'⟩
    · exact hnew
    · exact grown name (h task d' hd' name hname')
  · rw [move.stages_other htask] at hd
    exact grown name (h task d hd name hname)

/-! ### Nothing is lost -/

/-- An event that is not appended or refused by a move, but was there before, is there after it, was
delivered, or was taken by overflow storage. -/
theorem Move.isAccountedFor {now : Instant} {b later : Buffer} {id : TaskId}
    (move : Move now b id later) (backed : b.IsBacked) {name : String}
    (h : b.IsAccountedFor name) : later.IsAccountedFor name := by
  rcases h with ⟨event, hevent, hid⟩ | ⟨event, hevent, hid⟩ | ⟨event, hevent, hid⟩
  · have kept : event ∈ later.events → later.IsAccountedFor name :=
      fun hlater => .inl ⟨event, hlater, hid⟩
    cases move with
    | put new | notStored new =>
      apply kept
      rcases appendOrReject_cases b id new with h' | h' <;> rw [h']
      · exact List.mem_append_left _ hevent
      · exact hevent
    | stored new expires stage =>
      -- the whole buffer was handed over, this event with it
      exact .inr (.inr ⟨event, by simp [hevent], hid⟩)
    | close d stage held =>
      by_cases hdelivered : event.id ∈ d.delivered
      · obtain ⟨sent, hsent, hsame⟩ := backed id d (by rw [stage]; rfl) event.id hdelivered
        exact .inr (.inl ⟨sent, by simpa using hsent, hsame.trans hid⟩)
      · refine .inl ⟨retried d.failed event, ?_, (id_retried _ _).trans hid⟩
        rw [close_events]
        exact List.mem_map_of_mem (List.mem_filter.mpr ⟨hevent, by simp [hdelivered]⟩)
    | _ => exact kept (by simpa using hevent)
  · exact .inr (.inl ⟨event, move.delivered_mono hevent, hid⟩)
  · exact .inr (.inr ⟨event, move.persisted_mono hevent, hid⟩)

/-- What an add of an event is promised at a stage: once it was accepted, its event is accounted for. -/
def Promise (b : Buffer) (event : Event) : Stage → Prop
  | .adding given | .spilling given _ => given = event
  | .finished (.added (.ok _)) => b.IsAccountedFor event.id
  | .finished (.added (.error _)) | .dropped => True
  | _ => False

/-- The promise to an add of an event is kept. -/
def IsKept (b : Buffer) (task : TaskId) (event : Event) : Prop := b.Promise event (b.stages task)

/-- A promise at a stage rests on nothing but what is accounted for. -/
theorem Promise.mono {b later : Buffer} {event : Event} {stage : Stage}
    (grown : b.IsAccountedFor event.id → later.IsAccountedFor event.id)
    (h : b.Promise event stage) : later.Promise event stage := by
  cases stage with
  | adding given => exact h
  | spilling given expires => exact h
  | finished reply =>
    cases reply with
    | added result =>
      cases result with
      | ok _ => exact grown h
      | error _ => trivial
    | flushed result => exact h
    | viewed events => exact h
  | dropped => trivial
  | _ => exact h

/-- After an add was appended or refused, its event is accounted for if it was accepted. -/
theorem appendOrReject_isKept (b : Buffer) (id : TaskId) (event : Event) :
    (b.appendOrReject id event).IsKept id event := by
  rcases appendOrReject_cases b id event with h | h
  · have hlast : (b.append id event).IsAccountedFor event.id :=
      .inl ⟨event, List.mem_append_right _ (List.mem_singleton_self event), rfl⟩
    rw [h]
    simpa [IsKept, Promise, append] using hlast
  · rw [h]
    simp [IsKept, Promise, reject]

/-- Every move keeps what an add of an event was promised. -/
theorem Move.isKept {now : Instant} {b later : Buffer} {id task : TaskId} {event : Event}
    (move : Move now b id later) (backed : b.IsBacked) (h : b.IsKept task event) :
    later.IsKept task event := by
  by_cases htask : task = id
  · subst htask
    cases move with
    | stay => exact h
    | known given stage held known =>
      obtain ⟨other, hother, hid⟩ := known
      have hgiven : given = event := by simpa [IsKept, Promise, stage] using h
      simp only [IsKept, Promise, endAdd_stages, Tasks.set_self]
      exact .inl ⟨other, hother, by rw [hid, hgiven]⟩
    | put given stage | notStored given expires stage =>
      have hgiven : given = event := by simpa [IsKept, Promise, stage] using h
      rw [hgiven]
      exact appendOrReject_isKept b task event
    | stored given expires stage =>
      have hgiven : given = event := by simpa [IsKept, Promise, stage] using h
      rw [hgiven]
      exact appendOrReject_isKept b.spilled task event
    | spill given stage =>
      have hgiven : given = event := by simpa [IsKept, Promise, stage] using h
      simpa [IsKept, Promise] using hgiven
    | drop active =>
      rcases abort_stage b task with h' | h'
      · rw [h']
        exact h
      · simp [IsKept, Promise, h']
    | add _ stage | view stage | flush _ stage | noTransport stage | read _ stage
    | snapshot _ stage | sent _ _ _ stage | notSent _ _ _ _ stage | late _ stage | close _ stage
    | viewed stage => simp [IsKept, Promise, stage] at h
  · unfold IsKept
    rw [move.stages_other htask]
    exact Promise.mono (move.isAccountedFor backed) h

/-! ### Along a run -/

theorem start_isBacked (settings : Settings) (hasSink hasTransport : Bool) :
    (start settings hasSink hasTransport).IsBacked := by
  intro task d hd
  cases hd

theorem run_isBacked {b : Buffer} (h : b.IsBacked) (steps : List (Instant × Label)) :
    (b.run steps).IsBacked :=
  run_induction (fun _ _ _ _ h move => move.isBacked h) h steps

theorem run_isKept {b : Buffer} (backed : b.IsBacked) {task : TaskId} {event : Event}
    (h : b.IsKept task event) (steps : List (Instant × Label)) :
    (b.run steps).IsKept task event :=
  (run_induction (P := fun b => b.IsBacked ∧ b.IsKept task event)
    (fun _ _ _ _ h move => ⟨move.isBacked h.1, move.isKept h.1 h.2⟩) ⟨backed, h⟩ steps).2

/-- **Nothing accepted is lost.**  However adds, flushes and views overlap, whatever storage and
transport answer or fail to answer, and wherever operations are abandoned: once an add was accepted, an
event of its identifier waits in the buffer, was delivered, or is in overflow storage. -/
theorem accepted_isAccountedFor (settings : Settings) (hasSink hasTransport : Bool)
    (before after : List (Instant × Label)) (now : Instant) (task : TaskId) (event : Event)
    (idle : ((start settings hasSink hasTransport).run before).stages task = .idle)
    (accepted : ((start settings hasSink hasTransport).run
      (before ++ (now, .add task event) :: after)).stages task = .finished (.added (.ok ()))) :
    ((start settings hasSink hasTransport).run
      (before ++ (now, .add task event) :: after)).IsAccountedFor event.id := by
  rw [run_append, run_cons] at accepted ⊢
  have backed := run_isBacked (start_isBacked settings hasSink hasTransport) before
  have begun : (((start settings hasSink hasTransport).run before).step now
      (.add task event)).IsKept task event := by
    simp [step, begin, idle, IsKept, Promise]
  have kept := run_isKept (Move.isBacked (step_move now _ _) backed) begun after
  rw [IsKept, accepted] at kept
  exact kept

/-- A flush has an event in flight while an add spills that very event; the flush is then abandoned. -/
theorem accepted_isAccountedFor_after_abort :
    let event (id : String) : Event := ⟨id, "topic", "key", [], .clockStart, 0⟩
    let b := start { capacity := 1 } true true
    let before : List (Instant × Label) :=
      [(0, .add 0 (event "a")), (0, .resume 0), (1, .flush 1 10), (1, .resume 1), (1, .resume 1)]
    let after : List (Instant × Label) :=
      [(2, .resume 2), (3, .sent 1 (.ok ())), (4, .stored 2 (.ok ())), (5, .abort 1)]
    let later := b.run (before ++ (2, .add 2 (event "b")) :: after)
    (b.run before).stages 2 = .idle ∧ later.stages 2 = .finished (.added (.ok ())) ∧
      later.IsAccountedFor (event "b").id :=
  ⟨rfl, rfl, accepted_isAccountedFor _ _ _ _ _ _ _ _ rfl rfl⟩

/-! ### What a spill hands over

Overflow storage is given the content of the buffer when a spill begins, and answers later.  The add
that spills holds the lock all that time, so nobody else changes the events in the buffer meanwhile. -/

/-- An add that spills holds the lock. -/
def HoldsWhileSpilling (b : Buffer) : Prop :=
  ∀ task event expires, b.stages task = .spilling event expires → b.lock.holder = some task

theorem holder_request {l : Lock} {id other : TaskId} (h : l.holder = some other) :
    (l.request id).holder = some other := by
  simp [Lock.request, h]

theorem holder_leave {l : Lock} {id other : TaskId} (h : l.holder = some other) (hne : other ≠ id) :
    (l.leave id).holder = some other := by
  simp [Lock.leave, h, hne]

theorem holder_goOn {b : Buffer} {id other : TaskId} {d : Delivery}
    (h : b.lock.holder = some other) : (b.goOn id d).lock.holder = some other := by
  unfold goOn
  split
  · exact holder_request h
  · exact h

/-- While an operation that spills holds the lock, no other operation changes the events or takes the
lock away. -/
theorem Move.beside_spill {now : Instant} {b later : Buffer} {id task : TaskId}
    (move : Move now b id later) (exclusive : b.HoldsWhileSpilling)
    (held : b.lock.holder = some task) (hne : task ≠ id) :
    later.events = b.events ∧ later.lock.holder = some task := by
  have notHeld : ¬ b.lock.isHeldBy id = true := by
    simp [Lock.isHeldBy, held, hne]
  have notSpilling : ∀ event expires, b.stages id ≠ .spilling event expires := by
    intro event expires hstage
    have hid := exclusive id event expires hstage
    rw [held] at hid
    exact hne (Option.some.inj hid)
  cases move with
  | stay | flush _ | noTransport | spill => exact ⟨rfl, held⟩
  | add _ | view | read _ | late _ => exact ⟨rfl, holder_request held⟩
  | known _ _ holds | put _ _ holds | snapshot _ _ holds | close _ _ holds | viewed _ holds =>
    exact absurd holds notHeld
  | stored event expires stage | notStored event expires stage =>
    exact absurd stage (notSpilling event expires)
  | sent d event rest => exact ⟨by simp, holder_goOn held⟩
  | notSent d event rest error => exact ⟨by simp, holder_goOn held⟩
  | drop active =>
    refine ⟨by simp, ?_⟩
    unfold abort
    split <;> first | exact holder_leave held hne | exact held

theorem Move.holdsWhileSpilling {now : Instant} {b later : Buffer} {id : TaskId}
    (move : Move now b id later) (h : b.HoldsWhileSpilling) : later.HoldsWhileSpilling := by
  intro task event expires hstage
  by_cases htask : task = id
  · subst htask
    cases move with
    | stay => exact h task event expires hstage
    | put given | notStored given =>
      obtain ⟨_, hstages⟩ := appendOrReject_stage b task given
      rw [hstages, Tasks.set_self] at hstage
      cases hstage
    | stored given =>
      obtain ⟨_, hstages⟩ := appendOrReject_stage b.spilled task given
      rw [hstages, Tasks.set_self] at hstage
      cases hstage
    | spill given stage held => simpa [Lock.isHeldBy, withStage] using held
    | snapshot limit =>
      rcases snapshot_stage b now task limit with ⟨_, hstages⟩ | ⟨_, _, _, hstages⟩ | hstages <;>
        rw [hstages, Tasks.set_self] at hstage <;> cases hstage
    | sent d sent rest =>
      obtain ⟨own, hown, hstages⟩ := goOn_stage { b with delivered := b.delivered ++ [sent] } task
        (d.after sent rest (.ok ()))
      rw [hstages, Tasks.set_self] at hstage
      rcases hown with rfl | rfl <;> cases hstage
    | notSent d sent rest error =>
      obtain ⟨own, hown, hstages⟩ := goOn_stage b task (d.after sent rest (.error error))
      rw [hstages, Tasks.set_self] at hstage
      rcases hown with rfl | rfl <;> cases hstage
    | drop active =>
      rcases abort_stage b task with h' | h'
      · rw [h'] at hstage ⊢
        exact h task event expires hstage
      · simp [h'] at hstage
    | _ => simp at hstage
  · rw [move.stages_other htask] at hstage
    exact (move.beside_spill h (h task event expires hstage) htask).2

end ProfileGuard.Buffer
