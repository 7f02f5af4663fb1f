import ProfileGuard.Proofs.Buffer.Deliveries

/-!
# The buffer is a bounded queue

Events join at the end and leave from anywhere: a spill clears the buffer, and a flush takes out what it
delivered, in the middle of what came in meanwhile.  What is left keeps its order.  An add looks for room
before it appends its event, and an add that spills looks again afterwards; it holds the lock all the time, so
a buffer that was not cleared is still full then.

* **`Buffer.Alters`** / **`Buffer.Move.alters`** — what a move does to the events.
* **`Buffer.latest`** — the last event of each identifier.
* **`Buffer.IsQueue`** — the invariant: few enough, in the order of their adds, and counted by the gauge.
* **`Buffer.pending_isQueue`** — the events that wait after any run.
-/

namespace ProfileGuard.Buffer

variable {now : Instant} {b later : Buffer} {id task : TaskId} {event : Event} {events : List Event}

/-! ### Settings -/

@[simp]
theorem appendOrReject_settings (b : Buffer) (id : TaskId) (event : Event) :
    (b.appendOrReject id event).settings = b.settings := by
  rcases appendOrReject_cases b id event with h | h <;> rw [h] <;> rfl

@[simp]
theorem goOn_settings (b : Buffer) (id : TaskId) (d : Delivery) :
    (b.goOn id d).settings = b.settings := by
  unfold goOn
  split <;> rfl

theorem Move.settings (move : Move now b id later) : later.settings = b.settings := by
  cases move with
  | put | notStored | sent | notSent => simp
  | stored event =>
    rw [appendOrReject_settings]
    rfl
  | snapshot limit =>
    unfold Buffer.snapshot
    dsimp only
    split <;> rfl
  | drop =>
    unfold Buffer.abort
    split <;> rfl
  | _ => rfl

/-! ### A buffer that is being spilled -/

/-- An operation that spills after a move was about to do so before it, or nothing has happened. -/
theorem Move.of_spilling (move : Move now b id later) {expires : Instant}
    (h : later.stages id = .spilling event expires) :
    later = b ∨ (later.events = b.events ∧ b.settings.capacity ≤ b.events.length) := by
  cases move with
  | stay => exact .inl rfl
  | spill given stage held fresh full => exact .inr ⟨rfl, full⟩
  | put given | notStored given =>
    obtain ⟨_, hstages⟩ := appendOrReject_stage b id given
    rw [hstages, Tasks.set_self] at h
    cases h
  | stored given =>
    obtain ⟨_, hstages⟩ := appendOrReject_stage b.spilled id given
    rw [hstages, Tasks.set_self] at h
    cases h
  | snapshot limit =>
    rcases snapshot_stage b now id limit with ⟨_, hstages⟩ | ⟨_, _, _, hstages⟩ | hstages <;>
      rw [hstages, Tasks.set_self] at h <;> cases h
  | sent d sent rest =>
    obtain ⟨own, hown, hstages⟩ := goOn_stage { b with delivered := b.delivered ++ [sent] } id
      (d.after sent rest (.ok ()))
    rw [hstages, Tasks.set_self] at h
    rcases hown with rfl | rfl <;> cases h
  | notSent d sent rest error =>
    obtain ⟨own, hown, hstages⟩ := goOn_stage b id (d.after sent rest (.error error))
    rw [hstages, Tasks.set_self] at h
    rcases hown with rfl | rfl <;> cases h
  | drop active =>
    rcases abort_stage b id with hsame | hstages
    · exact .inl hsame
    · simp [hstages] at h
  | _ => simp at h

/-- A buffer is full while an add spills it, and the add holds the lock. -/
structure SpillsWhenFull (b : Buffer) : Prop where
  exclusive : b.HoldsWhileSpilling
  full : ∀ {task event expires}, b.stages task = .spilling event expires →
    b.settings.capacity ≤ b.events.length

theorem SpillsWhenFull.move (h : b.SpillsWhenFull) (move : Move now b id later) :
    later.SpillsWhenFull := by
  refine ⟨move.holdsWhileSpilling h.exclusive, fun {task event expires} hstage => ?_⟩
  rw [move.settings]
  by_cases htask : task = id
  · subst htask
    rcases move.of_spilling hstage with rfl | ⟨hevents, hfull⟩
    · exact h.full hstage
    · rw [hevents]
      exact hfull
  · rw [move.stages_other htask] at hstage
    rw [(move.beside_spill h.exclusive (h.exclusive task event expires hstage) htask).1]
    exact h.full hstage

theorem start_spillsWhenFull (settings : Settings) (hasSink hasTransport : Bool) :
    (start settings hasSink hasTransport).SpillsWhenFull where
  exclusive _ _ _ h := by cases h
  full h := by cases h

theorem run_spillsWhenFull (settings : Settings) (hasSink hasTransport : Bool)
    (steps : List (Instant × Label)) :
    ((start settings hasSink hasTransport).run steps).SpillsWhenFull :=
  run_induction (fun _ _ _ _ h move => h.move move)
    (start_spillsWhenFull settings hasSink hasTransport) steps

/-! ### What a move does to the events -/

/-- What a move of an operation does to the events in a buffer. -/
inductive Alters (b : Buffer) (id : TaskId) (later : Buffer) : Prop where
  | same (events : later.events = b.events) (appended : b.appendedBy? later id = none)
  /-- A new event joins at the end. -/
  | append (event : Event) (fresh : ∀ other ∈ b.events, other.id ≠ event.id)
      (room : b.events.length < b.settings.capacity) (events : later.events = b.events ++ [event])
      (appended : b.appendedBy? later id = some event)
  /-- All events are handed over, and the event of the add takes their place if there is room for it. -/
  | handOver (persisted : later.persisted = b.persisted ++ b.events)
      (room : later.events.length ≤ b.settings.capacity)
      (events : later.events = (b.appendedBy? later id).toList)
  /-- A flush takes out what it delivered. -/
  | takeOut (d : Delivery) (stage : b.stages id = .closing d)
      (events : later.events
        = (b.events.filter fun event => !d.delivered.contains event.id).map (retried d.failed))
      (appended : b.appendedBy? later id = none)

/-- An event is appended where there is room for it. -/
theorem appendOrReject_eq (b : Buffer) (id : TaskId) (event : Event) :
    (b.events.length < b.settings.capacity ∧ b.appendOrReject id event = b.append id event) ∨
      (b.settings.capacity ≤ b.events.length ∧ b.appendOrReject id event = b.reject id) := by
  unfold appendOrReject
  split
  · rename_i room
    exact .inl ⟨room, rfl⟩
  · rename_i full
    exact .inr ⟨Nat.le_of_not_lt full, rfl⟩

theorem Move.alters (move : Move now b id later) (spills : b.SpillsWhenFull) :
    b.Alters id later := by
  cases move with
  | put event stage held fresh =>
    rcases appendOrReject_eq b id event with ⟨room, heq⟩ | ⟨_, heq⟩ <;> rw [heq]
    · exact .append event fresh room rfl (appendedBy?_append stage fresh b)
    · exact .same rfl (appendedBy?_reject b b id)
  | notStored event expires stage =>
    -- nothing was handed over, so the buffer is as full as before
    rcases appendOrReject_eq b id event with ⟨room, _⟩ | ⟨_, heq⟩
    · exact absurd room (Nat.not_lt.mpr (spills.full stage))
    · rw [heq]
      exact .same rfl (appendedBy?_reject b b id)
  | stored event expires stage =>
    rcases appendOrReject_eq b.spilled id event with ⟨room, heq⟩ | ⟨_, heq⟩ <;> rw [heq]
    · refine .handOver rfl room ?_
      rw [appendedBy?_append_of_spilling stage]
      rfl
    · refine .handOver rfl (Nat.zero_le _) ?_
      rw [appendedBy?_reject]
      rfl
  | known event stage held known => exact .same rfl (appendedBy?_of_known stage known)
  | close d stage => exact .takeOut d stage rfl (appendedBy?_of_event? (by rw [stage]; rfl))
  | snapshot limit stage | sent d event rest stage | notSent d event rest error stage =>
    exact .same (by simp) (appendedBy?_of_event? (by rw [stage]; rfl))
  | spill event stage => exact .same rfl (by simp [appendedBy?, stage])
  | add event stage | view stage | flush limit stage | noTransport stage
  | read limit stage | late d stage | viewed stage =>
    exact .same rfl (appendedBy?_of_event? (by rw [stage]; rfl))
  | stay => exact .same rfl (appendedBy?_eq_none (.inl rfl))
  | drop => exact .same (abort_events b id) (appendedBy?_abort b id)

/-! ### The order of the events -/

/-- The last event of each identifier, in their order. -/
def latest : List Event → List Event
  | [] => []
  | event :: events =>
    if events.any (·.id == event.id) then latest events else event :: latest events

/-- One more event takes the place of an earlier one of its identifier. -/
theorem latest_concat (events : List Event) (event : Event) :
    latest (events ++ [event]) = (latest events).filter (·.id != event.id) ++ [event] := by
  induction events with
  | nil => rfl
  | cons first events ih =>
    rw [List.cons_append, latest, latest, ih]
    by_cases hlater : events.any (·.id == first.id) = true
    · simp [hlater]
    · by_cases hnew : event.id = first.id
      · simp [hlater, hnew]
      · simp [hlater, hnew, Ne.symm hnew]

theorem mem_of_mem_latest (h : event ∈ latest events) : event ∈ events := by
  induction events with
  | nil => exact h
  | cons first events ih =>
    rw [latest] at h
    split at h
    · exact List.mem_cons_of_mem _ (ih h)
    · exact (List.mem_cons.mp h).elim (fun heq => heq ▸ List.mem_cons_self)
        fun hrest => List.mem_cons_of_mem _ (ih hrest)

theorem nodup_latest (events : List Event) : ((latest events).map Event.id).Nodup := by
  induction events with
  | nil => exact List.nodup_nil
  | cons first events ih =>
    rw [latest]
    split
    · exact ih
    · rename_i hlater
      refine List.nodup_cons.mpr ⟨fun hmem => hlater ?_, ih⟩
      obtain ⟨other, hother, hid⟩ := List.mem_map.mp hmem
      exact List.any_eq_true.mpr ⟨other, mem_of_mem_latest hother, by simpa using hid⟩

/-- An event as it was before any delivery of it failed. -/
def Event.untried (event : Event) : Event := { event with retries := 0 }

@[simp]
theorem untried_retried (failed : List String) (event : Event) :
    (retried failed event).untried = event.untried := by
  unfold retried
  split <;> rfl

theorem map_id_untried (events : List Event) :
    (events.map Event.untried).map Event.id = events.map Event.id := by
  rw [List.map_map]
  rfl

/-! ### The invariant -/

/-- A buffer against the events appended so far: there are no more than it may hold, in the order in which
they were appended last, and the gauge shows their number. -/
structure IsQueue (b : Buffer) (appended : List Event) : Prop where
  bounded : b.events.length ≤ b.settings.capacity
  ordered : (b.events.map Event.untried).Sublist ((latest appended).map Event.untried)
  gauge : b.metrics.size.value = UInt64.ofNat b.events.length

variable {appended : List Event}

theorem IsQueue.distinct (h : b.IsQueue appended) : (b.events.map Event.id).Nodup := by
  have hsublist := h.ordered.map Event.id
  rw [map_id_untried, map_id_untried] at hsublist
  exact hsublist.nodup (nodup_latest appended)

/-- Events that wait are still in order when a new one joins them. -/
theorem ordered_concat
    (ordered : (events.map Event.untried).Sublist ((latest appended).map Event.untried))
    (fresh : ∀ other ∈ events, other.id ≠ event.id) :
    ((events ++ [event]).map Event.untried).Sublist
      ((latest (appended ++ [event])).map Event.untried) := by
  have hkept : (events.map Event.untried).filter (·.id != event.id) = events.map Event.untried := by
    refine List.filter_eq_self.mpr fun other hother => ?_
    obtain ⟨old, hold, rfl⟩ := List.mem_map.mp hother
    simpa [Event.untried] using fresh old hold
  have hfilter := ordered.filter (·.id != event.id)
  rw [hkept, List.filter_map] at hfilter
  rw [latest_concat, List.map_append, List.map_append]
  exact hfilter.append (List.Sublist.refl _)

/-- What a flush leaves is in the order in which it was. -/
theorem kept_sublist (events : List Event) (d : Delivery) :
    (((events.filter fun event => !d.delivered.contains event.id).map (retried d.failed)).map
      Event.untried).Sublist (events.map Event.untried) := by
  rw [List.map_map]
  have hsame : Event.untried ∘ retried d.failed = Event.untried :=
    funext fun event => untried_retried d.failed event
  rw [hsame]
  exact List.filter_sublist.map _

/-- The gauge shows the number of the events after a move, if it did before. -/
theorem Move.gauge (move : Move now b id later)
    (h : b.metrics.size.value = UInt64.ofNat b.events.length) :
    later.metrics.size.value = UInt64.ofNat later.events.length := by
  have joined : ∀ (kept : Buffer), kept.metrics.size.value = UInt64.ofNat kept.events.length →
      ∀ event, (kept.appendOrReject id event).metrics.size.value
        = UInt64.ofNat (kept.appendOrReject id event).events.length := by
    intro kept hkept event
    rcases appendOrReject_cases kept id event with hcase | hcase <;> rw [hcase]
    · rfl
    · exact hkept
  cases move with
  | put event | notStored event => exact joined b h event
  | stored event => exact joined b.spilled rfl event
  | close d => rfl
  | snapshot limit =>
    unfold Buffer.snapshot
    dsimp only
    split <;> exact h
  | sent d event rest | notSent d event rest error =>
    unfold goOn
    split <;> exact h
  | drop =>
    unfold Buffer.abort
    split <;> exact h
  | _ => exact h

/-- Every move keeps the invariant, with the event that it appends. -/
theorem IsQueue.move (h : b.IsQueue appended) (move : Move now b id later) (spills : b.SpillsWhenFull) :
    later.IsQueue (appended ++ (b.appendedBy? later id).toList) := by
  have hgauge := move.gauge h.gauge
  cases move.alters spills with
  | same hevents hnone =>
    refine ⟨?_, ?_, hgauge⟩
    · rw [hevents, move.settings]
      exact h.bounded
    · rw [hevents, hnone, Option.toList_none, List.append_nil]
      exact h.ordered
  | append event fresh room hevents hsome =>
    refine ⟨?_, ?_, hgauge⟩
    · rw [hevents, move.settings, List.length_append]
      exact room
    · rw [hevents, hsome]
      exact ordered_concat h.ordered fresh
  | handOver _ room hevents =>
    refine ⟨?_, ?_, hgauge⟩
    · rw [move.settings]
      exact room
    · rw [hevents]
      cases b.appendedBy? later id with
      | none => exact List.nil_sublist _
      | some event =>
        have hnone : (([] : List Event).map Event.untried).Sublist
            ((latest appended).map Event.untried) := List.nil_sublist _
        exact ordered_concat hnone (fun _ hmem => absurd hmem List.not_mem_nil)
  | takeOut d _ hevents hnone =>
    refine ⟨?_, ?_, hgauge⟩
    · rw [hevents, move.settings, List.length_map]
      exact Nat.le_trans (List.length_filter_le _ _) h.bounded
    · rw [hevents, hnone, Option.toList_none, List.append_nil]
      exact (kept_sublist b.events d).trans h.ordered

theorem IsQueue.run (h : b.IsQueue appended) (spills : b.SpillsWhenFull)
    (steps : List (Instant × Label)) :
    (b.run steps).IsQueue (appended ++ b.appended steps) := by
  induction steps generalizing b appended with
  | nil =>
    rw [Buffer.appended, List.append_nil]
    exact h
  | cons s steps ih =>
    have move := step_move s.1 b s.2
    rw [run_cons, Buffer.appended, ← List.append_assoc]
    exact ih (h.move move spills) (spills.move move)

theorem start_isQueue (settings : Settings) (hasSink hasTransport : Bool) :
    (start settings hasSink hasTransport).IsQueue [] :=
  ⟨Nat.zero_le _, List.Sublist.slnil, rfl⟩

/-- **The events that wait are a bounded queue.**  Whatever the capacity, however adds, flushes and views
overlap, whatever storage and transport answer or fail to answer, and wherever operations are abandoned: at
every instant there are no more events in the buffer than it may hold, no two of them have one identifier,
they stand in the order in which they were appended (an event that left and came back stands where it came
back), nothing of them has changed but their retries, and the gauge shows their number. -/
theorem pending_isQueue (settings : Settings) (hasSink hasTransport : Bool)
    (steps : List (Instant × Label)) :
    let b := start settings hasSink hasTransport
    let later := b.run steps
    later.events.length ≤ settings.capacity ∧ (later.events.map Event.id).Nodup ∧
      (later.events.map Event.untried).Sublist ((latest (b.appended steps)).map Event.untried) ∧
      later.metrics.size.value = UInt64.ofNat later.events.length ∧
      (settings.capacity < UInt64.size → later.metrics.size.value.toNat = later.events.length) := by
  intro b later
  have queue : later.IsQueue (b.appended steps) :=
    (start_isQueue settings hasSink hasTransport).run
      (start_spillsWhenFull settings hasSink hasTransport) steps
  have hsettings : later.settings = settings :=
    run_induction (P := fun b => b.settings = settings)
      (fun _ _ _ _ h move => move.settings.trans h) rfl steps
  have bounded : later.events.length ≤ settings.capacity := hsettings ▸ queue.bounded
  refine ⟨bounded, queue.distinct, queue.ordered, queue.gauge, fun word => ?_⟩
  rw [queue.gauge, UInt64.toNat_ofNat']
  exact Nat.mod_eq_of_lt (Nat.lt_of_le_of_lt bounded word)

/-- A flush has delivered the first of two events when it is abandoned; a second flush delivers it again and
takes it out, and it comes back behind an event that came in meanwhile. -/
theorem pending_isQueue_after_abort :
    let event (id : String) : Event := ⟨id, "topic", "key", [], .clockStart, 0⟩
    let settings : Settings := { capacity := 3 }
    let b := start settings true true
    let steps : List (Instant × Label) := [(0, .add 0 (event "a")), (0, .resume 0),
      (0, .add 1 (event "b")), (0, .resume 1), (1, .flush 2 10), (1, .resume 2), (1, .resume 2),
      (2, .sent 2 (.ok ())), (3, .abort 2), (4, .flush 3 10), (4, .resume 3), (4, .resume 3),
      (5, .add 4 (event "c")), (5, .resume 4), (6, .sent 3 (.ok ())),
      (7, .sent 3 (.error (.transport "down"))), (7, .resume 3),
      (8, .add 5 (event "a")), (8, .resume 5)]
    let later := b.run steps
    settings.capacity < UInt64.size ∧ later.events.map Event.id = ["b", "c", "a"] ∧
      (b.appended steps).map Event.id = ["a", "b", "c", "a"] ∧
      later.events.length ≤ 3 ∧ (later.events.map Event.id).Nodup ∧
      (later.events.map Event.untried).Sublist ((latest (b.appended steps)).map Event.untried) ∧
      later.metrics.size.value.toNat = later.events.length := by
  intro event settings b steps later
  obtain ⟨bounded, distinct, ordered, _, gauge⟩ := pending_isQueue settings true true steps
  have word : settings.capacity < UInt64.size := by decide
  have left : later.events.map Event.id = ["b", "c", "a"] := by decide +kernel
  have joined : (b.appended steps).map Event.id = ["a", "b", "c", "a"] := by decide +kernel
  refine ⟨word, left, joined, bounded, distinct, ordered, ?_⟩
  simpa only [later, b] using gauge word

end ProfileGuard.Buffer
