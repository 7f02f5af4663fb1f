import ProfileGuard.Buffer.Scene
import ProfileGuard.Proofs.Buffer.Waiting

/-!
# An add is all or nothing

An add that has the buffer for itself accepts a known event as it is, appends a new one where there is room,
and hands the whole content of a full buffer to overflow storage.  What storage makes of it decides the rest:
if it takes everything in time, the new event takes the place of the old ones, and otherwise the add leaves no
trace but the count of refused events.  A buffer that can hold nothing has nothing to hand over, so it refuses
whatever storage makes of that.

* **`Buffer.Storage`** — how long overflow storage takes, and how it answers.
* **`Buffer.addSteps`** — the steps of an add that has the buffer for itself, up to its end.
* **`Buffer.handed`** — what is handed to overflow storage along a run.
* **`Buffer.add_all_or_nothing`** — the whole add.
-/

namespace ProfileGuard.Buffer

/-- How long overflow storage takes for what it is given, and how it answers. -/
structure Storage where
  latency : List Event → Duration
  answer : List Event → Except Failure Unit

/-- Overflow storage takes what it is given within a time. -/
def Storage.Takes (storage : Storage) (events : List Event) (limit : Duration) : Prop :=
  storage.latency events ≤ limit ∧ storage.answer events = .ok ()

/-- How a call that began at an instant ends: with its answer, or because the time is over. -/
def Storage.ending (storage : Storage) (id : TaskId) (expires since : Instant) (events : List Event) :
    Instant × Label :=
  if since + storage.latency events ≤ expires then
    (since + storage.latency events, .stored id (storage.answer events))
  else (expires, .storeExpired id)

theorem Storage.task_ending (storage : Storage) (id : TaskId) (expires since : Instant)
    (events : List Event) : (storage.ending id expires since events).2.task = id := by
  unfold ending
  split <;> rfl

/-- An add that has the buffer for itself, once it goes on with the lock. -/
def addPlaced (b : Buffer) (id : TaskId) (event : Event) (began resumed : Instant) : Buffer :=
  (b.step began (.add id event)).step resumed (.resume id)

/-- The steps of an add that has the buffer for itself: it begins, it goes on with the lock, and if it hands
something to overflow storage the call comes to its end. -/
def addSteps (b : Buffer) (storage : Storage) (id : TaskId) (event : Event) (began resumed : Instant) :
    List (Instant × Label) :=
  (began, .add id event) :: (resumed, .resume id) ::
    match (b.addPlaced id event began resumed).job? id with
    | some (.store events, expires) => [storage.ending id expires resumed events]
    | _ => []

/-- What an add hands to overflow storage by a step from one buffer to another. -/
def handedBy? (b later : Buffer) (id : TaskId) : Option (List Event) :=
  match b.stages id, later.job? id with
  | .adding _, some (.store events, _) => some events
  | _, _ => none

/-- What is handed to overflow storage along a run, call by call. -/
def handed (b : Buffer) : List (Instant × Label) → List (List Event)
  | [] => []
  | s :: steps => (b.handedBy? (b.step s.1 s.2) s.2.task).toList ++ (b.step s.1 s.2).handed steps

variable {b : Buffer} {id : TaskId} {event : Event} {began resumed expires : Instant} {limit : Duration}

/-! ### An add with the lock -/

theorem place_known (known : b.Waits event.id) (now : Instant) (id : TaskId) :
    b.place now id event = b.endAdd id (.ok ()) := by
  rw [place, if_pos (any_id_iff.mpr known)]

/-- A new event is appended or refused at once, unless the buffer is full and can be handed over. -/
theorem place_put (fresh : ¬ b.Waits event.id)
    (room : b.events.length < b.settings.capacity ∨ b.hasSink = false) (now : Instant) (id : TaskId) :
    b.place now id event = b.appendOrReject id event := by
  rw [place, if_neg (mt any_id_iff.mp fresh), if_pos (by simpa using room)]

theorem place_spill (fresh : ¬ b.Waits event.id) (full : b.settings.capacity ≤ b.events.length)
    (sink : b.hasSink = true) (now : Instant) (id : TaskId) :
    b.place now id event = b.withStage id (.spilling event (now + b.settings.persistLimit)) := by
  have hroom : ¬ (b.events.length < b.settings.capacity ∨ (!b.hasSink) = true) := by
    simpa [sink] using full
  rw [place, if_neg (mt any_id_iff.mp fresh), if_neg hroom]

/-- The buffer while an add that nobody waits for has the lock. -/
def whileAdding (b : Buffer) (id : TaskId) (stage : Stage) : Buffer :=
  { b.withStage id stage with lock := ⟨some id, []⟩ }

theorem addPlaced_eq (free : b.IsFree) (idle : b.stages id = .idle) (event : Event)
    (began resumed : Instant) :
    b.addPlaced id event began resumed = (b.whileAdding id (.adding event)).place resumed id event := by
  simp [addPlaced, step, begin, idle, resume, free.lock, Lock.request, Lock.isHeldBy, withStage,
    whileAdding]

theorem withStage_whileAdding (b : Buffer) (id : TaskId) (before stage : Stage) :
    (b.whileAdding id before).withStage id stage = b.whileAdding id stage := by
  simp [whileAdding, withStage]

theorem spilled_whileAdding (b : Buffer) (id : TaskId) (stage : Stage) :
    (b.whileAdding id stage).spilled = b.spilled.whileAdding id stage := rfl

/-- An add that is over gives back the lock. -/
theorem endAdd_whileAdding (free : b.IsFree) (id : TaskId) (stage : Stage) (result : Except Error Unit) :
    (b.whileAdding id stage).endAdd id result = b.withStage id (.finished (.added result)) := by
  simp [endAdd, whileAdding, withStage, Lock.release, free.lock]

/-- Where there is room, the event becomes the last one. -/
theorem appendOrReject_of_room (free : b.IsFree) (room : b.events.length < b.settings.capacity)
    (id : TaskId) (stage : Stage) (event : Event) :
    (b.whileAdding id stage).appendOrReject id event
      = { b with
          events := b.events ++ [event]
          metrics := { b.metrics with
            buffered := b.metrics.buffered.increment
            size := b.metrics.size.set (UInt64.ofNat (b.events.length + 1)) } }.withStage id
        (.finished (.added (.ok ()))) := by
  have happend : (b.whileAdding id stage).appendOrReject id event
      = (b.whileAdding id stage).append id event := if_pos room
  rw [happend]
  simp [append, hold, endAdd, whileAdding, withStage, Lock.release, free.lock]

/-- Where there is none, a refusal is counted and nothing else changes. -/
theorem appendOrReject_of_full (free : b.IsFree) (full : b.settings.capacity ≤ b.events.length)
    (id : TaskId) (stage : Stage) (event : Event) :
    (b.whileAdding id stage).appendOrReject id event
      = { b with metrics := { b.metrics with dropped := b.metrics.dropped.increment } }.withStage id
        (.finished (.added (.error (.full b.settings.capacity)))) := by
  have hreject : (b.whileAdding id stage).appendOrReject id event
      = (b.whileAdding id stage).reject id := if_neg (Nat.not_lt.mpr full)
  rw [hreject]
  simp [reject, endAdd, whileAdding, withStage, Lock.release, free.lock]

/-! ### A whole add -/

/-- An add that is over with the lock hands over nothing. -/
theorem addSteps_of_over {reply : Reply} (idle : b.stages id = .idle)
    (finished : (b.addPlaced id event began resumed).stages id = .finished reply) (storage : Storage) :
    b.handed (b.addSteps storage id event began resumed) = [] ∧
      b.run (b.addSteps storage id event began resumed) = b.addPlaced id event began resumed := by
  have hjob : (b.addPlaced id event began resumed).job? id = none := by simp [job?, finished]
  have hsteps : b.addSteps storage id event began resumed =
      [(began, .add id event), (resumed, .resume id)] := by
    rw [addSteps, hjob]
  refine ⟨?_, by rw [hsteps]; rfl⟩
  have hlater : ((b.step began (.add id event)).step resumed (.resume id)).job? id = none := hjob
  rw [hsteps]
  simp [handed, handedBy?, Label.task, idle, hlater]

/-- An add that spills hands over the content of the buffer in one call. -/
theorem addSteps_of_spilling {expires : Instant} (idle : b.stages id = .idle)
    (spilling : (b.addPlaced id event began resumed).stages id = .spilling event expires)
    (storage : Storage) :
    let placed := b.addPlaced id event began resumed
    let ending := storage.ending id expires resumed placed.events
    b.handed (b.addSteps storage id event began resumed) = [placed.events] ∧
      b.run (b.addSteps storage id event began resumed) = placed.step ending.1 ending.2 := by
  intro placed ending
  have hjob : placed.job? id = some (.store placed.events, expires) := by simp [placed, job?, spilling]
  have hsteps : b.addSteps storage id event began resumed =
      [(began, .add id event), (resumed, .resume id), ending] := by
    rw [addSteps]
    simp only [placed] at hjob
    rw [hjob]
  refine ⟨?_, by rw [hsteps]; rfl⟩
  have hbegun : (b.step began (.add id event)).stages id = .adding event := by
    simp [step, begin, idle]
  have hnone : b.handedBy? (b.step began (.add id event)) id = none := by simp [handedBy?, idle]
  have hsome : (b.step began (.add id event)).handedBy? placed id = some placed.events := by
    rw [handedBy?, hbegun, hjob]
  have hlast : placed.handedBy? (placed.step ending.1 ending.2) ending.2.task = none := by
    rw [Storage.task_ending, handedBy?, spilling]
  rw [hsteps]
  show (b.handedBy? _ id).toList ++ ((handedBy? _ placed id).toList ++
    ((placed.handedBy? (placed.step ending.1 ending.2) ending.2.task).toList ++ [])) = _
  rw [hnone, hsome, hlast]
  rfl

/-- What becomes of a full buffer when the call to overflow storage ends. -/
theorem step_ending (stage : b.stages id = .spilling event expires) (since : Instant)
    (within : expires = since + limit) (storage : Storage) :
    let ending := storage.ending id expires since b.events
    (storage.Takes b.events limit → b.step ending.1 ending.2 = b.spilled.appendOrReject id event) ∧
      (¬ storage.Takes b.events limit → b.step ending.1 ending.2 = b.appendOrReject id event) := by
  intro ending
  by_cases hlatency : storage.latency b.events ≤ limit
  · have inTime : since + storage.latency b.events ≤ expires := by
      rw [within]
      exact Nat.add_le_add_left hlatency since
    have hending : ending = (since + storage.latency b.events, .stored id (storage.answer b.events)) :=
      if_pos inTime
    rw [hending]
    refine ⟨fun takes => ?_, fun refuses => ?_⟩
    · simp only [step, stage, takes.2]
    · cases hanswer : storage.answer b.events with
      | ok _ => exact absurd ⟨hlatency, hanswer⟩ refuses
      | error failure => simp only [step, stage]
  · have late : ¬ since + storage.latency b.events ≤ expires := by
      rw [within]
      exact fun h => hlatency (Nat.le_of_add_le_add_left h)
    have hending : ending = (expires, .storeExpired id) := if_neg late
    rw [hending]
    refine ⟨fun takes => absurd takes.1 hlatency, fun _ => ?_⟩
    simp only [step, stage]

theorem spilled_of_empty (empty : b.events = [])
    (gauge : b.metrics.size.value = UInt64.ofNat b.events.length) : b.spilled = b := by
  obtain ⟨_, _, _, events, _, _, ⟨_, _, _, _, ⟨_, _, value⟩⟩, _, _, _⟩ := b
  obtain rfl : events = [] := empty
  obtain rfl : value = 0 := gauge
  simp [spilled, hold, Counter.add, Gauge.set]

/-- Where a full buffer can be handed over, what storage makes of it decides. -/
theorem addSteps_of_full (free : b.IsFree) (idle : b.stages id = .idle) (fresh : ¬ b.Waits event.id)
    (full : b.settings.capacity ≤ b.events.length) (sink : b.hasSink = true) (storage : Storage)
    (began resumed : Instant) :
    let steps := b.addSteps storage id event began resumed
    let waiting := b.whileAdding id (.spilling event (resumed + b.settings.persistLimit))
    b.handed steps = [b.events] ∧
      (storage.Takes b.events b.settings.persistLimit →
        b.run steps = waiting.spilled.appendOrReject id event) ∧
      (¬ storage.Takes b.events b.settings.persistLimit →
        b.run steps = waiting.appendOrReject id event) := by
  intro steps waiting
  have hwaits : ¬ (b.whileAdding id (.adding event)).Waits event.id := fresh
  have hplaced : b.addPlaced id event began resumed = waiting := by
    rw [addPlaced_eq free idle, place_spill hwaits full sink, withStage_whileAdding]
    rfl
  have hstage : waiting.stages id = .spilling event (resumed + b.settings.persistLimit) :=
    Tasks.set_self _ _ _
  obtain ⟨hhanded, hrun⟩ := addSteps_of_spilling idle (by rw [hplaced]; exact hstage) storage
  rw [hplaced] at hhanded hrun
  obtain ⟨takes, refuses⟩ := step_ending hstage resumed rfl storage
  exact ⟨hhanded, fun h => hrun.trans (takes h), fun h => hrun.trans (refuses h)⟩

/-- **An add is all or nothing.**  Whatever the buffer holds, however long overflow storage takes and whatever
it answers: where the event of an add that has the buffer for itself waits already, the add is accepted and
changes nothing.  Otherwise, where there is room, the event becomes the last one.  Where there is no room and
there is overflow storage, that is called once, with the whole content of the buffer in its order; if it takes
everything in time and the buffer may hold anything, the event becomes the only one, and in every other case
the event is refused and nothing changes but the count of refused events. -/
theorem add_all_or_nothing (reachable : b.IsReachable) (free : b.IsFree) (idle : b.stages id = .idle)
    (storage : Storage) (event : Event) (began resumed : Instant) :
    let steps := b.addSteps storage id event began resumed
    let later := b.run steps
    let capacity := b.settings.capacity
    let taken := b.hasSink = true ∧ storage.Takes b.events b.settings.persistLimit
    (b.Waits event.id →
      b.handed steps = [] ∧ later = b.withStage id (.finished (.added (.ok ())))) ∧
    (¬ b.Waits event.id → b.events.length < capacity →
      b.handed steps = [] ∧
        later = { b with
          events := b.events ++ [event]
          metrics := { b.metrics with
            buffered := b.metrics.buffered.increment
            size := b.metrics.size.set (UInt64.ofNat (b.events.length + 1)) } }.withStage id
          (.finished (.added (.ok ())))) ∧
    (¬ b.Waits event.id → capacity ≤ b.events.length →
      b.handed steps = (if b.hasSink then [b.events] else []) ∧
        (taken ∧ 0 < capacity →
          later = { b with
            events := [event]
            persisted := b.persisted ++ b.events
            metrics := { b.metrics with
              buffered := b.metrics.buffered.increment
              persisted := b.metrics.persisted.add (UInt64.ofNat b.events.length)
              size := b.metrics.size.set 1 } }.withStage id
            (.finished (.added (.ok ())))) ∧
        (¬ (taken ∧ 0 < capacity) →
          later = { b with
            metrics := { b.metrics with dropped := b.metrics.dropped.increment } }.withStage id
            (.finished (.added (.error (.full capacity)))))) := by
  intro steps later capacity taken
  have hwaits : (b.whileAdding id (.adding event)).Waits event.id ↔ b.Waits event.id := Iff.rfl
  -- what is over with the lock is over
  have ended : ∀ {last : Buffer} {reply : Reply}, b.addPlaced id event began resumed
      = last.withStage id (.finished reply) →
      b.handed steps = [] ∧ later = last.withStage id (.finished reply) := by
    intro last reply hplaced
    obtain ⟨hhanded, hlater⟩ :=
      addSteps_of_over idle (by rw [hplaced]; exact Tasks.set_self _ _ _) storage
    exact ⟨hhanded, hlater.trans hplaced⟩
  refine ⟨fun known => ended ?_, fun fresh room => ended ?_, fun fresh full => ?_⟩
  · rw [addPlaced_eq free idle, place_known (hwaits.mpr known), endAdd_whileAdding free]
  · rw [addPlaced_eq free idle, place_put (mt hwaits.mp fresh) (.inl room),
      appendOrReject_of_room free room]
  by_cases sink : b.hasSink = true
  · obtain ⟨hhanded, takes, refuses⟩ := addSteps_of_full free idle fresh full sink storage began resumed
    rw [spilled_whileAdding] at takes
    have free' : b.spilled.IsFree := ⟨free.lock, free.flushLock⟩
    refine ⟨by rw [if_pos sink]; exact hhanded, fun h => ?_, fun h => ?_⟩
    · obtain ⟨⟨_, htakes⟩, room⟩ := h
      exact (takes htakes).trans (appendOrReject_of_room free' room id _ event)
    · by_cases htakes : storage.Takes b.events b.settings.persistLimit
      · -- a buffer that can hold nothing is empty
        have none : capacity = 0 := Nat.eq_zero_of_not_pos fun room => h ⟨⟨sink, htakes⟩, room⟩
        obtain ⟨appended, queue⟩ := reachable.isQueue
        have bounded : b.events.length ≤ capacity := queue.bounded
        have empty : b.events = [] := List.length_eq_zero_iff.mp (by omega)
        rw [spilled_of_empty empty queue.gauge] at takes
        exact (takes htakes).trans (appendOrReject_of_full free full id _ event)
      · exact (refuses htakes).trans (appendOrReject_of_full free full id _ event)
  · have none : b.hasSink = false := by simpa using sink
    rw [if_neg sink]
    have hplaced := addPlaced_eq free idle event began resumed
    rw [place_put (mt hwaits.mp fresh) (.inr none), appendOrReject_of_full free full] at hplaced
    obtain ⟨hhanded, hlater⟩ := ended hplaced
    exact ⟨hhanded, fun h => absurd h.1.1 sink, fun _ => hlater⟩

/-- A buffer is full with two events, one of which a flush could not deliver.  That one is added once more,
and nobody is asked; a third one goes in because storage takes just the time that it has, and is refused where
storage takes longer. -/
theorem add_all_or_nothing_at_the_deadline :
    let event (id : String) : Event := ⟨id, "topic", "key", [], .clockStart, 0⟩
    let earlier : List (Instant × Label) := [(0, .add 0 (event "a")), (0, .resume 0),
      (0, .add 1 (event "b")), (0, .resume 1), (1, .flush 2 10), (1, .resume 2), (1, .resume 2),
      (2, .sent 2 (.error (.transport "down"))), (11, .sendExpired 2), (11, .resume 2)]
    let b := (start { capacity := 2, persistLimit := 5 } true true).run earlier
    let storage (latency : Duration) : Storage := ⟨fun _ => latency, fun _ => .ok ()⟩
    let full : List Event := [{ event "a" with retries := 1 }, event "b"]
    b.IsFree ∧ b.stages 3 = .idle ∧ b.events = full ∧
      b.run (b.addSteps (storage 5) 3 (event "a") 12 12) = b.withStage 3 (.finished (.added (.ok ()))) ∧
      b.handed (b.addSteps (storage 5) 3 (event "c") 12 12) = [full] ∧
      (b.run (b.addSteps (storage 5) 3 (event "c") 12 12)).events = [event "c"] ∧
      b.handed (b.addSteps (storage 6) 3 (event "c") 12 12) = [full] ∧
      (b.run (b.addSteps (storage 6) 3 (event "c") 12 12)).events = full := by
  intro event earlier b storage full
  have reachable : b.IsReachable := ⟨{ capacity := 2, persistLimit := 5 }, true, true, _, rfl⟩
  have free : b.IsFree := ⟨by decide +kernel, by decide +kernel⟩
  have idle : b.stages 3 = .idle := by
    unfold b
    exact run_stages_other (start { capacity := 2, persistLimit := 5 } true true) earlier 3 (by decide)
  have content : b.events = full := by decide +kernel
  have capacity : b.settings.capacity = 2 := by decide +kernel
  have limit : b.settings.persistLimit = 5 := by decide +kernel
  have sink : b.hasSink = true := by decide +kernel
  clear_value b
  have known : b.Waits "a" := by simp [Waits, content, full, event]
  have fresh : ¬ b.Waits "c" := by simp [Waits, content, full, event]
  have isFull : b.settings.capacity ≤ b.events.length := by simp [capacity, content, full]
  have inTime : (storage 5).Takes b.events b.settings.persistLimit := by simp [Storage.Takes, storage, limit]
  have late : ¬ (storage 6).Takes b.events b.settings.persistLimit := by simp [Storage.Takes, storage, limit]
  obtain ⟨again, _, _⟩ := add_all_or_nothing reachable free idle (storage 5) (event "a") 12 12
  obtain ⟨_, _, placed⟩ := add_all_or_nothing reachable free idle (storage 5) (event "c") 12 12
  obtain ⟨_, _, refused⟩ := add_all_or_nothing reachable free idle (storage 6) (event "c") 12 12
  obtain ⟨handed, taken, _⟩ := placed fresh isFull
  obtain ⟨handed', _, left⟩ := refused fresh isFull
  rw [if_pos sink, content] at handed handed'
  refine ⟨free, idle, content, (again known).2, handed, ?_, handed', ?_⟩
  · rw [taken ⟨⟨sink, inTime⟩, by rw [capacity]; decide⟩]
    rfl
  · rw [left fun h => late h.1.2]
    exact content

end ProfileGuard.Buffer
