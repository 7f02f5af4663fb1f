import ProfileGuard.Proofs.Buffer.Overlap

/-!
# No flush delivers what another has delivered

A flush delivers a snapshot and takes out of the buffer afterwards what it has delivered.  Between the two
the buffer still holds events that are delivered already, so another snapshot taken then would have them
delivered once more.  What prevents this is the lock that keeps flushes apart: a flush holds it from before
its snapshot until after it has taken out what it delivered.

The proof counts the copies of one event.  An add that appends the event brings in one copy; a copy waits in
the buffer, or a flush has it yet to try, or it is delivered.  An event that a flush under way has delivered
may still wait, but what waits then is not owed any more.

* **`Buffer.KeepsFlushesApart`** — a flush holds its lock from before its snapshot to its end.
* **`Buffer.appended`** — the events that adds append along a run.
* **`Buffer.Balance`** — the invariant: what is delivered or may still be was appended.
* **`Buffer.delivered_le_appended`** — no event is delivered more often than it was appended.
-/

namespace ProfileGuard.Buffer

variable {now : Instant} {b later : Buffer} {id task other : TaskId} {name : String} {n : Nat}

/-! ### Flushes are kept apart -/

/-- A flush is past the lock that keeps flushes apart. -/
def Stage.IsPastLock : Stage → Prop
  | reading _ | sending _ | closing _ => True
  | _ => False

/-- A flush holds its lock from before its snapshot to its end. -/
def KeepsFlushesApart (b : Buffer) : Prop :=
  ∀ task, (b.stages task).IsPastLock → b.flushLock.holder = some task

theorem Stage.isPastLock_of_delivery {stage : Stage} {d : Delivery} (h : stage.delivery? = some d) :
    stage.IsPastLock := by
  cases stage with
  | sending _ | closing _ => trivial
  | _ => cases h

/-- One flush at a time has a snapshot. -/
theorem KeepsFlushesApart.eq (apart : b.KeepsFlushesApart) (h : (b.stages task).IsPastLock)
    (h' : (b.stages other).IsPastLock) : task = other := by
  have hholder := apart task h
  rw [apart other h'] at hholder
  exact (Option.some.inj hholder).symm

theorem appendOrReject_flushLock (b : Buffer) (id : TaskId) (event : Event) :
    (b.appendOrReject id event).flushLock = b.flushLock := by
  rcases appendOrReject_cases b id event with h | h <;> rw [h] <;> rfl

theorem goOn_flushLock (b : Buffer) (id : TaskId) (d : Delivery) :
    (b.goOn id d).flushLock = b.flushLock := by
  unfold goOn
  split <;> rfl

/-- While a flush holds the lock, no other operation takes it away. -/
theorem Move.beside_flush (move : Move now b id later) (apart : b.KeepsFlushesApart)
    (held : b.flushLock.holder = some task) (hne : task ≠ id) :
    later.flushLock.holder = some task := by
  have notPast : ¬ (b.stages id).IsPastLock := by
    intro h
    have hid := apart id h
    rw [held] at hid
    exact hne (Option.some.inj hid)
  cases move with
  | stay | add | view | noTransport | known | spill | read | viewed => exact held
  | flush limit => exact holder_request held
  | put event | notStored event => rw [appendOrReject_flushLock]; exact held
  | stored event => rw [appendOrReject_flushLock]; exact held
  | snapshot limit stage => exact absurd (by rw [stage]; trivial) notPast
  | sent d event rest stage => exact absurd (by rw [stage]; trivial) notPast
  | notSent d event rest error stage => exact absurd (by rw [stage]; trivial) notPast
  | late d stage => exact absurd (by rw [stage]; trivial) notPast
  | close d stage => exact absurd (by rw [stage]; trivial) notPast
  | drop active =>
    unfold abort
    split <;> first | exact holder_leave held hne | exact held

theorem Move.keepsFlushesApart (move : Move now b id later) (apart : b.KeepsFlushesApart) :
    later.KeepsFlushesApart := by
  intro task h
  by_cases htask : task = id
  · subst htask
    cases move with
    | stay => exact apart task h
    | read limit stage held => simpa [Lock.isHeldBy, withStage] using held
    | put event | notStored event =>
      obtain ⟨_, hstages⟩ := appendOrReject_stage b task event
      rw [hstages, Tasks.set_self] at h
      exact h.elim
    | stored event =>
      obtain ⟨_, hstages⟩ := appendOrReject_stage b.spilled task event
      rw [hstages, Tasks.set_self] at h
      exact h.elim
    | snapshot limit stage =>
      have hholder := apart task (by rw [stage]; trivial)
      revert h
      unfold Buffer.snapshot
      dsimp only
      split
      · intro h
        simp [endFlush, Stage.IsPastLock] at h
      · exact fun _ => hholder
      · intro h
        simp [withStage, Stage.IsPastLock] at h
    | sent d event rest stage | notSent d event rest error stage =>
      rw [goOn_flushLock]
      exact apart task (by rw [stage]; trivial)
    | late d stage => exact apart task (by rw [stage]; trivial)
    | drop active =>
      rcases abort_stage b task with hsame | hstages
      · rw [hsame] at h ⊢
        exact apart task h
      · rw [hstages, Tasks.set_self] at h
        exact h.elim
    | _ => simp [Stage.IsPastLock] at h
  · rw [move.stages_other htask] at h
    exact move.beside_flush apart (apart task h) htask

/-! ### Copies of an event -/

/-- How many of some events have an identifier. -/
def copies (name : String) (events : List Event) : Nat := events.countP fun event => event.id = name

theorem copies_append (name : String) (events more : List Event) :
    copies name (events ++ more) = copies name events + copies name more := List.countP_append

theorem copies_cons (name : String) (event : Event) (events : List Event) :
    copies name (event :: events) = copies name [event] + copies name events :=
  copies_append name [event] events

theorem copies_singleton_of_ne {event : Event} (h : event.id ≠ name) : copies name [event] = 0 := by
  simp [copies, h]

theorem copies_eq_zero (h : ¬ b.Waits name) : copies name b.events = 0 := by
  rw [copies, List.countP_eq_zero]
  intro event hevent hname
  exact h ⟨event, hevent, by simpa using hname⟩

/-- What a flush takes out of the buffer leaves no more copies there than before. -/
theorem copies_close_le (b : Buffer) (id : TaskId) (d : Delivery) :
    copies name (b.close id d).events ≤ copies name b.events := by
  rw [close_events, copies, List.countP_map]
  have hsame : ((fun event : Event => decide (event.id = name)) ∘ retried d.failed) =
      fun event => decide (event.id = name) := by
    funext event
    simp [id_retried]
  rw [hsame]
  exact List.Sublist.countP_le (List.filter_sublist)

/-! ### Appended events -/

/-- The event that an add appends by a step from one buffer to another: the add ends accepted, and its event
was not in the buffer before.  While an add spills, overflow storage has the content of the buffer. -/
def appendedBy? (b later : Buffer) (id : TaskId) : Option Event :=
  match b.stages id, later.stages id with
  | .adding event, .finished (.added (.ok _)) =>
    if b.events.any (·.id == event.id) then none else some event
  | .spilling event _, .finished (.added (.ok _)) => some event
  | _, _ => none

/-- The events that adds append along a run, in their order. -/
def appended (b : Buffer) : List (Instant × Label) → List Event
  | [] => []
  | s :: steps =>
    (b.appendedBy? (b.step s.1 s.2) s.2.task).toList ++ (b.step s.1 s.2).appended steps

/-- An operation that stays where it is or is dropped appends nothing. -/
theorem appendedBy?_eq_none (h : later.stages id = b.stages id ∨ later.stages id = .dropped) :
    b.appendedBy? later id = none := by
  unfold appendedBy?
  rcases h with h | h <;> rw [h] <;> cases b.stages id <;> rfl

theorem appendedBy?_abort (b : Buffer) (id : TaskId) : b.appendedBy? (b.abort id) id = none := by
  rcases abort_stage b id with hsame | hstages
  · exact appendedBy?_eq_none (.inl (by rw [hsame]))
  · exact appendedBy?_eq_none (.inr (by rw [hstages, Tasks.set_self]))

/-- Only an add appends an event. -/
theorem appendedBy?_of_event? (h : (b.stages id).event? = none) : b.appendedBy? later id = none := by
  unfold appendedBy?
  cases hstage : b.stages id with
  | adding | spilling =>
    rw [hstage] at h
    cases h
  | _ => rfl

theorem appendedBy?_of_known {event : Event} (stage : b.stages id = .adding event)
    (known : b.Waits event.id) : b.appendedBy? later id = none := by
  unfold appendedBy?
  rw [stage]
  split
  · rename_i hadding _
    cases hadding
    exact if_pos (any_id_iff.mpr known)
  · rename_i hspilling _
    cases hspilling
  · rfl

theorem appendedBy?_reject (b kept : Buffer) (id : TaskId) :
    b.appendedBy? (kept.reject id) id = none := by
  have hlater : (kept.reject id).stages id = .finished (.added (.error (.full kept.settings.capacity))) :=
    Tasks.set_self _ _ _
  unfold appendedBy?
  rw [hlater]
  cases b.stages id <;> rfl

/-- A new event is appended, whatever was in the buffer when that was decided. -/
theorem appendedBy?_append {event : Event} (stage : b.stages id = .adding event)
    (fresh : ∀ other ∈ b.events, other.id ≠ event.id) (kept : Buffer) :
    b.appendedBy? (kept.append id event) id = some event := by
  have hany : b.events.any (·.id == event.id) = false := by simpa using fresh
  simp [appendedBy?, stage, append, hany]

theorem appendedBy?_append_of_spilling {event : Event} {expires : Instant}
    (stage : b.stages id = .spilling event expires) (kept : Buffer) :
    b.appendedBy? (kept.append id event) id = some event := by
  simp [appendedBy?, stage, append]

/-- No more copies wait after a step than before it, but for the one that it appends. -/
theorem Move.copies_events_le (move : Move now b id later) (name : String) :
    copies name later.events ≤
      copies name b.events + copies name (b.appendedBy? later id).toList := by
  have appended : ∀ kept : Buffer, copies name kept.events ≤ copies name b.events → ∀ event,
      b.appendedBy? (kept.append id event) id = some event →
      copies name (kept.appendOrReject id event).events ≤ copies name b.events +
        copies name (b.appendedBy? (kept.appendOrReject id event) id).toList := by
    intro kept hkept event happended
    rcases appendOrReject_cases kept id event with h | h
    · rw [h, happended]
      show copies name (kept.events ++ [event]) ≤ _
      rw [copies_append]
      exact Nat.add_le_add_right hkept _
    · rw [h]
      exact Nat.le_trans hkept (Nat.le_add_right _ _)
  cases move with
  | put event stage held fresh =>
    exact appended b (Nat.le_refl _) event (appendedBy?_append stage fresh b)
  | stored event expires stage =>
    exact appended b.spilled (Nat.zero_le _) event (appendedBy?_append_of_spilling stage b.spilled)
  | notStored event expires stage =>
    exact appended b (Nat.le_refl _) event (appendedBy?_append_of_spilling stage b)
  | close d stage => exact Nat.le_trans (copies_close_le b id d) (Nat.le_add_right _ _)
  | _ => simp

/-! ### The balance -/

/-- What is delivered or may still be was appended: the copies that were delivered, with those that a flush
has yet to try, and with those that wait unless a flush under way has delivered the event. -/
structure Balance (b : Buffer) (name : String) (n : Nat) : Prop where
  delivered : copies name b.delivered ≤ n
  carried : ∀ task d, (b.stages task).delivery? = some d →
    copies name b.delivered + copies name d.remaining ≤ n
  waiting : (∀ task, ¬ b.HasSent task name) → copies name b.delivered + copies name b.events ≤ n

/-- What a flush has yet to try after a move it had yet to try before, or it has just taken its snapshot. -/
theorem Move.carried (move : Move now b id later) (apart : b.KeepsFlushesApart) (name : String) {d : Delivery}
    (h : (later.stages task).delivery? = some d) :
    (∃ d', (b.stages task).delivery? = some d' ∧ copies name d.remaining ≤ copies name d'.remaining) ∨
      ((∀ task, ¬ b.HasSent task name) ∧ d.remaining = b.events) := by
  by_cases htask : task = id
  · subst htask
    have goes := move.goes
    generalize hstage : b.stages task = stage at goes ⊢
    generalize later.stages task = next at goes h
    cases goes with
    | stay => exact .inl ⟨d, h, (Nat.le_refl _)⟩
    | snapshot limit d' hdelivered hremaining =>
      obtain rfl := Option.some.inj h
      refine .inr ⟨fun other ⟨d, hd, _⟩ => ?_, hremaining⟩
      -- the flush that takes its snapshot holds the lock, so no flush has one already
      obtain rfl := apart.eq (Stage.isPastLock_of_delivery hd)
        (by rw [hstage]; trivial : (b.stages task).IsPastLock)
      rw [hstage] at hd
      cases hd
    | tried d' event rest result remaining _ own =>
      have hd : d'.after event rest result = d := by
        rcases own with rfl | rfl <;> exact Option.some.inj h
      refine .inl ⟨d', rfl, ?_⟩
      rw [← hd, remaining, copies_cons]
      cases result <;> exact Nat.le_add_left _ _
    | late d' =>
      obtain rfl := Option.some.inj h
      exact .inl ⟨d', rfl, (Nat.le_refl _)⟩
    | _ => cases h
  · rw [move.stages_other htask] at h
    exact .inl ⟨d, h, (Nat.le_refl _)⟩

namespace Balance

/-- Where nothing is delivered, what is appended is all that is added to the balance. -/
theorem onward (h : b.Balance name n) (move : Move now b id later) (apart : b.KeepsFlushesApart)
    (same : copies name later.delivered = copies name b.delivered)
    (removes : ∀ task, b.HasSent task name → later.HasSent task name ∨ ¬ later.Waits name) :
    later.Balance name (n + copies name (b.appendedBy? later id).toList) := by
  have hle := move.copies_events_le name
  refine ⟨?_, fun task d hd => ?_, fun none => ?_⟩
  · rw [same]
    exact Nat.le_trans h.delivered (Nat.le_add_right _ _)
  · rcases move.carried apart name hd with ⟨d', hd', hcopies⟩ | ⟨hnone, hremaining⟩
    · have := h.carried _ _ hd'
      omega
    · have := h.waiting hnone
      rw [hremaining]
      omega
  · rw [same]
    by_cases hsent : ∃ task, b.HasSent task name
    · obtain ⟨task, htask⟩ := hsent
      rw [copies_eq_zero ((removes task htask).resolve_left (none task))]
      exact Nat.le_trans h.delivered (Nat.le_add_right _ _)
    · have := h.waiting fun task htask => hsent ⟨task, htask⟩
      omega

/-- A flush that delivers the event had it yet to try. -/
theorem sent (h : b.Balance name n) (apart : b.KeepsFlushesApart) {d : Delivery} {event : Event}
    {rest : List Event} (stage : b.stages id = .sending d) (remaining : d.remaining = event :: rest)
    (own : event.id = name) :
    ({ b with delivered := b.delivered ++ [event] }.goOn id (d.after event rest (.ok ()))).Balance
      name n := by
  have hdelivery : (b.stages id).delivery? = some d := by rw [stage]; rfl
  have hcarried := h.carried _ _ hdelivery
  rw [remaining, copies_cons] at hcarried
  refine ⟨?_, fun task d' hd => ?_, fun none => ?_⟩
  · rw [goOn_delivered, copies_append]
    omega
  · obtain ⟨next, hnext, hstages⟩ := goOn_stage { b with delivered := b.delivered ++ [event] } id
      (d.after event rest (.ok ()))
    rw [hstages] at hd
    by_cases htask : task = id
    · subst htask
      rw [Tasks.set_self] at hd
      have hd' : d.after event rest (.ok ()) = d' := by
        rcases hnext with rfl | rfl <;> exact Option.some.inj hd
      rw [goOn_delivered, copies_append, ← hd']
      show copies name b.delivered + copies name [event] + copies name rest ≤ n
      omega
    · -- no other flush has a snapshot
      rw [Tasks.set_other _ _ htask] at hd
      exact absurd (apart.eq (Stage.isPastLock_of_delivery hd) (Stage.isPastLock_of_delivery hdelivery))
        htask
  · exact absurd (hasSent_goOn (own ▸ List.mem_insert_self)) (none id)

end Balance

/-- A move delivers no copy of an event, unless a flush delivers the event by it. -/
theorem Move.copies_delivered (move : Move now b id later) (name : String) :
    copies name later.delivered = copies name b.delivered ∨
      ∃ d event rest, b.stages id = .sending d ∧ d.remaining = event :: rest ∧ event.id = name ∧
        later = { b with delivered := b.delivered ++ [event] }.goOn id
          (d.after event rest (.ok ())) := by
  cases move with
  | sent d event rest stage remaining =>
    by_cases hname : event.id = name
    · exact .inr ⟨d, event, rest, stage, remaining, hname, rfl⟩
    · left
      rw [goOn_delivered, copies_append, copies_singleton_of_ne hname, Nat.add_zero]
  | _ => exact .inl (by simp)

/-- Every step but an abort keeps the balance. -/
theorem Balance.step {label : Label} (h : b.Balance name n) (apart : b.KeepsFlushesApart)
    (unaborted : ∀ task, label ≠ .abort task) (now : Instant) :
    (b.step now label).Balance name
      (n + copies name (b.appendedBy? (b.step now label) label.task).toList) := by
  have move := step_move now b label
  rcases move.copies_delivered name with hsame | ⟨d, event, rest, stage, remaining, own, hlater⟩
  · exact h.onward move apart hsame fun task hsent => hsent.step unaborted now
  · have hnone : b.appendedBy? (b.step now label) label.task = none := by simp [appendedBy?, stage]
    rw [hnone, hlater]
    exact h.sent apart stage remaining own

/-- Along a run without aborts, the balance grows by what is appended. -/
theorem Balance.run (h : b.Balance name n) (apart : b.KeepsFlushesApart)
    {steps : List (Instant × Label)} (unaborted : ∀ s ∈ steps, ∀ task, s.2 ≠ .abort task) :
    (b.run steps).Balance name (n + copies name (b.appended steps)) := by
  induction steps generalizing b n with
  | nil => exact h
  | cons s steps ih =>
    have hstep := h.step apart (unaborted s List.mem_cons_self) s.1
    have hrest := ih hstep ((step_move s.1 b s.2).keepsFlushesApart apart)
      fun s' hs' => unaborted s' (List.mem_cons_of_mem _ hs')
    rw [appended, copies_append, ← Nat.add_assoc]
    exact hrest

theorem start_keepsFlushesApart (settings : Settings) (hasSink hasTransport : Bool) :
    (start settings hasSink hasTransport).KeepsFlushesApart := fun _ h => h.elim

theorem start_balance (settings : Settings) (hasSink hasTransport : Bool) (name : String) :
    (start settings hasSink hasTransport).Balance name 0 :=
  ⟨Nat.le_refl _, (fun _ _ hd => by cases hd), fun _ => Nat.le_refl _⟩

/-- **No event is delivered more often than it was appended.**  However flushes and adds overlap, with or
without spills, and whatever storage and transport answer or fail to answer, if no operation is abandoned:
flushes deliver an event at most as often as adds have appended it.  An add of an event that is in the buffer
already appends nothing. -/
theorem delivered_le_appended (settings : Settings) (hasSink hasTransport : Bool)
    (steps : List (Instant × Label)) (unaborted : ∀ s ∈ steps, ∀ task, s.2 ≠ .abort task)
    (name : String) :
    let b := start settings hasSink hasTransport
    copies name (b.run steps).delivered ≤ copies name (b.appended steps) := by
  intro b
  have balance := (start_balance settings hasSink hasTransport name).run
    (start_keepsFlushesApart settings hasSink hasTransport) unaborted
  rw [Nat.zero_add] at balance
  exact balance.delivered

/-- A flush sends an event while an add spills it and another flush waits.  Added once more, the event is
delivered by the second flush, too. -/
theorem delivered_le_appended_after_spill :
    let event (id : String) : Event := ⟨id, "topic", "key", [], .clockStart, 0⟩
    let b := start { capacity := 1 } true true
    let steps : List (Instant × Label) := [(0, .add 0 (event "a")), (0, .resume 0),
      (1, .flush 1 10), (1, .resume 1), (1, .resume 1), (1, .flush 2 10),
      (2, .add 3 (event "b")), (2, .resume 3), (3, .stored 3 (.ok ())),
      (4, .sent 1 (.ok ())), (4, .resume 1),
      (5, .add 4 (event "a")), (5, .resume 4), (6, .stored 4 (.ok ())),
      (7, .resume 2), (7, .resume 2), (8, .sent 2 (.ok ())), (8, .resume 2)]
    (∀ s ∈ steps, ∀ task, s.2 ≠ .abort task) ∧ copies "a" (b.run steps).delivered = 2 ∧
      2 ≤ copies "a" (b.appended steps) := by
  intro event b steps
  have unaborted : ∀ s ∈ steps, ∀ task, s.2 ≠ .abort task := by simp [steps]
  have twice : copies "a" (b.run steps).delivered = 2 := by decide
  have h := delivered_le_appended { capacity := 1 } true true steps unaborted "a"
  exact ⟨unaborted, twice, twice ▸ h⟩

end ProfileGuard.Buffer
