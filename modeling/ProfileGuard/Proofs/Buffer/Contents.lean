import ProfileGuard.Buffer.Scene
import ProfileGuard.Proofs.Buffer.Passage

/-!
# What is in a buffer came in by adds

An event gets into the buffer from its add only, and from the buffer into the snapshots of flushes, into
overflow storage and to the transport.  On the way nothing of it changes but the number of its retries.  So
whatever holds of every event that is added, and does not depend on the retries, holds of every event wherever
it is.

* **`Buffer.Holds`** — a property of every event, wherever it is.
* **`Buffer.Move.events_from`**, **`Buffer.Move.remaining_from`** — where the events of a buffer and of a
  flush come from.
* **`Buffer.Holds.step`** — each step keeps the property if it holds of the event that the step adds.
* **`Buffer.Holds.of_send`**, **`Buffer.Holds.of_store`** — it holds of the events that are given to the
  outlets.
* **`Outlets.sent_of_act?`**, **`Outlets.stored_of_act?`** — nothing else gets to the outlets.
-/

namespace ProfileGuard.Buffer

/-- A property of every event in the hands of a buffer and of its outlets. -/
structure Holds (P : Event → Prop) (b : Buffer) : Prop where
  events : ∀ event ∈ b.events, P event
  delivered : ∀ event ∈ b.delivered, P event
  persisted : ∀ event ∈ b.persisted, P event
  adding : ∀ task event, (b.stages task).event? = some event → P event
  remaining : ∀ task d, (b.stages task).delivery? = some d → ∀ event ∈ d.remaining, P event

variable {now : Instant} {b later : Buffer} {id task : TaskId} {event : Event} {label : Label}
  {P : Event → Prop}

/-! ### Where events come from -/

theorem mem_appendOrReject {given : Event} (h : event ∈ (b.appendOrReject id given).events) :
    event ∈ b.events ∨ event = given := by
  rcases appendOrReject_cases b id given with hcase | hcase
  · rw [hcase] at h
    exact (List.mem_append.mp h).imp_right List.mem_singleton.mp
  · rw [hcase] at h
    exact .inl h

theorem retried_eq (failed : List String) (event : Event) :
    ∃ retries, retried failed event = { event with retries } := by
  unfold retried
  split
  · exact ⟨_, rfl⟩
  · exact ⟨event.retries, rfl⟩

/-- An event in the buffer was there before, but for the number of its retries, or its add brings it. -/
theorem Move.events_from (move : Move now b id later) (h : event ∈ later.events) :
    (∃ old ∈ b.events, ∃ retries, event = { old with retries }) ∨ (b.stages id).event? = some event := by
  have same : event ∈ b.events → ∃ old ∈ b.events, ∃ retries, event = { old with retries } :=
    fun hold => ⟨event, hold, event.retries, rfl⟩
  cases move with
  | put given stage | notStored given _ stage =>
    rcases mem_appendOrReject h with hold | rfl
    · exact .inl (same hold)
    · exact .inr (by rw [stage]; rfl)
  | stored given _ stage =>
    rcases mem_appendOrReject h with hold | rfl
    · cases hold
    · exact .inr (by rw [stage]; rfl)
  | close d =>
    rw [close_events] at h
    obtain ⟨old, hold, rfl⟩ := List.mem_map.mp h
    exact .inl ⟨old, (List.mem_filter.mp hold).1, retried_eq d.failed old⟩
  | _ => exact .inl (same (by simpa using h))

/-- What a flush has yet to try was yet to be tried before, or was in the buffer when the flush took its
snapshot. -/
theorem Move.remaining_from (move : Move now b id later) {d : Delivery}
    (hd : (later.stages task).delivery? = some d) (h : event ∈ d.remaining) :
    event ∈ b.events ∨ ∃ d', (b.stages task).delivery? = some d' ∧ event ∈ d'.remaining := by
  by_cases htask : task = id
  · subst htask
    have goes := move.goes
    generalize b.stages task = stage at goes ⊢
    generalize later.stages task = next at goes hd
    cases goes with
    | stay => exact .inr ⟨d, hd, h⟩
    | snapshot limit d' hdelivered hremaining =>
      obtain rfl := Option.some.inj hd
      exact .inl (hremaining ▸ h)
    | tried d' tried rest result remaining _ own =>
      have hrest : event ∈ rest := by
        rcases own with rfl | rfl <;> obtain rfl := Option.some.inj hd <;> cases result <;> exact h
      refine .inr ⟨d', rfl, ?_⟩
      rw [remaining]
      exact List.mem_cons_of_mem _ hrest
    | late d' =>
      obtain rfl := Option.some.inj hd
      exact .inr ⟨d', rfl, h⟩
    | _ => cases hd
  · rw [move.stages_other htask] at hd
    exact .inr ⟨d, hd, h⟩

/-- What a flush delivers by a move, it had yet to try. -/
theorem Move.delivered_from (move : Move now b id later) (h : event ∈ later.delivered) :
    event ∈ b.delivered ∨ ∃ d, (b.stages id).delivery? = some d ∧ event ∈ d.remaining := by
  cases move with
  | sent d sent rest stage remaining =>
    rw [goOn_delivered] at h
    refine (List.mem_append.mp h).imp_right fun hsent => ⟨d, by rw [stage]; rfl, ?_⟩
    rw [remaining, List.mem_singleton.mp hsent]
    exact List.mem_cons_self
  | _ => exact .inl (by simpa using h)

/-- What overflow storage takes by a move was in the buffer. -/
theorem Move.persisted_from (move : Move now b id later) (h : event ∈ later.persisted) :
    event ∈ b.persisted ∨ event ∈ b.events := by
  cases move with
  | stored given =>
    rw [appendOrReject_persisted] at h
    exact List.mem_append.mp h
  | _ => exact .inl (by simpa using h)

/-! ### A property of every event -/

/-- A move keeps a property of every event if it holds of the event of the add that begins. -/
theorem Holds.move (h : b.Holds P) (retry : ∀ event retries, P event → P { event with retries })
    (move : Move now b id later)
    (new : ∀ event, b.stages id = .idle → (later.stages id).event? = some event → P event) :
    later.Holds P where
  events event hmem := by
    rcases move.events_from hmem with ⟨old, hold, retries, rfl⟩ | hadd
    · exact retry old retries (h.events old hold)
    · exact h.adding id event hadd
  delivered event hmem := by
    rcases move.delivered_from hmem with hold | ⟨d, hd, hremaining⟩
    · exact h.delivered event hold
    · exact h.remaining id d hd event hremaining
  persisted event hmem := by
    rcases move.persisted_from hmem with hold | hevents
    · exact h.persisted event hold
    · exact h.events event hevents
  adding task event hevent := by
    rcases move.event? hevent with hold | ⟨rfl, idle⟩
    · exact h.adding task event hold
    · exact new event idle hevent
  remaining task d hd event hmem := by
    rcases move.remaining_from hd hmem with hevents | ⟨d', hd', hold⟩
    · exact h.events event hevents
    · exact h.remaining task d' hd' event hold

/-- A step keeps a property of every event if it holds of the event that the step adds. -/
theorem Holds.step (h : b.Holds P) (retry : ∀ event retries, P event → P { event with retries })
    (now : Instant) (new : ∀ id event, label = .add id event → P event) :
    (b.step now label).Holds P := by
  refine h.move retry (step_move now b label) fun event idle hevent => ?_
  obtain ⟨id, hlabel⟩ := label_of_idle idle hevent
  exact new id event hlabel

theorem Holds.start (settings : Settings) (hasSink hasTransport : Bool) :
    (start settings hasSink hasTransport).Holds P where
  events _ hmem := absurd hmem List.not_mem_nil
  delivered _ hmem := absurd hmem List.not_mem_nil
  persisted _ hmem := absurd hmem List.not_mem_nil
  adding _ _ hevent := by cases hevent
  remaining _ _ hd := by cases hd

/-- A property that follows from another holds where the other does. -/
theorem Holds.mono {Q : Event → Prop} (h : b.Holds P) (hle : ∀ event, P event → Q event) :
    b.Holds Q where
  events event hmem := hle event (h.events event hmem)
  delivered event hmem := hle event (h.delivered event hmem)
  persisted event hmem := hle event (h.persisted event hmem)
  adding task event hevent := hle event (h.adding task event hevent)
  remaining task d hd event hmem := hle event (h.remaining task d hd event hmem)

/-! ### What the outlets are given -/

/-- The message that a flush gives to the transport is that of an event which has the property. -/
theorem Holds.of_send (h : b.Holds P) {message : Outlets.Message} {expires : Instant}
    (job : b.job? id = some (.send message, expires)) : ∃ event, P event ∧ message = event.message := by
  unfold job? at job
  split at job
  · cases job
  · rename_i d stage
    obtain ⟨event, hevent, hjob⟩ := Option.map_eq_some_iff.mp job
    refine ⟨event, h.remaining id d (by rw [stage]; rfl) event (List.mem_of_mem_head? hevent), ?_⟩
    injection (congrArg Prod.fst hjob).symm
  · cases job

/-- The events that an add hands over to overflow storage have the property. -/
theorem Holds.of_store (h : b.Holds P) {events : List Event} {expires : Instant}
    (job : b.job? id = some (.store events, expires)) : ∀ event ∈ events, P event := by
  unfold job? at job
  split at job
  · injection Option.some.inj job with hevents _
    injection hevents with hevents
    exact hevents ▸ h.events
  · rename_i d stage
    obtain ⟨event, -, hjob⟩ := Option.map_eq_some_iff.mp job
    cases hjob
  · cases job

/-- An operation that acts leaves the outlets alone, or goes on there with what it wants. -/
theorem outlets_of_actOn? {o after : Outlets} (h : actOn? now id b o = some (later, after)) :
    after = o ∨ ∃ job expires outcome, b.job? id = some (job, expires) ∧
      o.act? now id job expires = some (after, outcome) := by
  unfold actOn? at h
  split at h
  · exact .inl (congrArg Prod.snd (Option.some.inj h)).symm
  · split at h
    · cases h
    · rename_i job expires hjob
      obtain ⟨⟨outlets, outcome⟩, hact, hafter⟩ := Option.map_eq_some_iff.mp h
      refine .inr ⟨job, expires, outcome, hjob, ?_⟩
      cases outcome <;> obtain ⟨-, rfl⟩ := Prod.mk.inj hafter <;> exact hact

end ProfileGuard.Buffer

namespace ProfileGuard.Outlets

variable {o after : Outlets} {now : Instant} {id : TaskId} {job : Job} {expires : Instant}
  {outcome : Option Outcome}

/-- The events that the sink has stored, if there is one. -/
def stored (o : Outlets) : List Buffer.Event := (o.sink.map Sink.stored).getD []

/-- A job that acts is given to its outlet, or its answer arrives; nothing else is sent or stored. -/
theorem act?_cases (h : o.act? now id job expires = some (after, outcome)) :
    (after.transport.sent = o.transport.sent ∧ after.sink = o.sink) ∨
      ∃ wait, after = (o.answer id wait job).1 := by
  unfold act? at h
  split at h
  · refine .inl ?_
    have hafter : after = (o.start now id job).1 := (congrArg Prod.fst (Option.some.inj h)).symm
    rw [hafter]
    unfold start
    split <;> split <;> exact ⟨rfl, rfl⟩
  · rename_i wait _
    split at h
    · exact .inr ⟨wait, (congrArg Prod.fst (Option.some.inj h)).symm⟩
    · split at h
      · obtain ⟨rfl, -⟩ := Prod.mk.inj (Option.some.inj h)
        exact .inl ⟨rfl, rfl⟩
      · cases h

/-- What is sent by a job is its message. -/
theorem sent_of_act? (h : o.act? now id job expires = some (after, outcome)) {message : Message}
    (hsent : message ∈ after.transport.sent) :
    message ∈ o.transport.sent ∨ job = .send message := by
  rcases act?_cases h with ⟨hsame, -⟩ | ⟨wait, rfl⟩
  · exact .inl (hsame ▸ hsent)
  · cases job with
    | send given =>
      by_cases hdown : o.transport.down = true
      · have hsame : (o.answer id wait (.send given)).1.transport.sent = o.transport.sent := by
          simp [answer, deliver, awaiting, hdown]
        exact .inl (hsame ▸ hsent)
      · have hmore : (o.answer id wait (.send given)).1.transport.sent = o.transport.sent ++ [given] := by
          simp [answer, deliver, awaiting, hdown]
        rw [hmore] at hsent
        exact (List.mem_append.mp hsent).imp_right fun hown => by rw [List.mem_singleton.mp hown]
    | store forms =>
      have hsame : (o.answer id wait (.store forms)).1.transport.sent = o.transport.sent := by
        unfold answer
        cases hsink : o.sink <;> simp [awaiting, hsink]
      exact .inl (hsame ▸ hsent)

/-- What is stored by a job is among its events. -/
theorem stored_of_act? (h : o.act? now id job expires = some (after, outcome)) {form : Buffer.Event}
    (hstored : form ∈ after.stored) :
    form ∈ o.stored ∨ ∃ forms, job = .store forms ∧ form ∈ forms := by
  rcases act?_cases h with ⟨-, hsame⟩ | ⟨wait, rfl⟩
  · rw [stored, hsame] at hstored
    exact .inl hstored
  · cases job with
    | send given =>
      have hsame : (o.answer id wait (.send given)).1.sink = o.sink := by
        simp [answer, awaiting]
      rw [stored, hsame] at hstored
      exact .inl hstored
    | store forms =>
      cases hsink : o.sink with
      | none =>
        have hnone : (o.answer id wait (.store forms)).1.sink = none := by
          simp [answer, awaiting, hsink]
        rw [stored, hnone] at hstored
        cases hstored
      | some sink =>
        have hanswer : (o.answer id wait (.store forms)).1.sink =
            some (take forms wait.failing sink).1 := by
          simp [answer, awaiting, hsink]
        rw [stored, hanswer] at hstored
        rw [stored, hsink]
        unfold take at hstored
        split at hstored
        · exact .inl hstored
        · exact (List.mem_append.mp hstored).imp_right fun hown => ⟨forms, rfl, hown⟩

end ProfileGuard.Outlets
