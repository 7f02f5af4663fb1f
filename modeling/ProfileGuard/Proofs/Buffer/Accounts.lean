import ProfileGuard.Proofs.Buffer.Refusals
import ProfileGuard.Proofs.Buffer.Waiting

/-!
# The accounts of a buffer balance

Four counters show what became of the events: how many were appended, handed over, taken out by flushes, and
refused.  A flush does not count the events that it takes out.  It counts the identifiers that it delivered,
and it does so at its end, when the buffer may have changed since its snapshot.  The two numbers agree where
all that a flush names still waits.  Only a spill could change that, and while adds and flushes take turns no
flush is under way beside a spill.

* **`Buffer.StartsWhen`** / **`Buffer.TakesTurns`** — where the adds and the flushes of a run begin.
* **`Buffer.KeepsTrack`** — all that a flush under way names waits in the buffer.
* **`Buffer.IsTallied`** / **`Buffer.IsTallied.move`** — the invariant, and what carries it over a move.
* **`Buffer.accounts_balance`** — the counters after any run of adds and flushes that take turns.
-/

namespace ProfileGuard.Buffer

variable {now : Instant} {b later : Buffer} {id task other : TaskId} {label : Label} {event : Event}
  {events : List Event} {names : List String} {steps : List (Instant × Label)} {appended flushed : Nat}

/-! ### Adds and flushes that take turns -/

/-- An add or a flush is under way. -/
def Stage.IsWork : Stage → Prop
  | adding _ | spilling _ _ | flushing _ | reading _ | sending _ | closing _ => True
  | _ => False

/-- Whether a label begins an add or a flush. -/
def Label.beginsWork : Label → Bool
  | add .. | flush .. => true
  | _ => false

/-- No add and no flush is under way. -/
def IsUnoccupied (b : Buffer) : Prop := ∀ task, ¬ (b.stages task).IsWork

/-- The adds and the flushes of a run begin only where the buffer has a property. -/
def StartsWhen (P : Buffer → Prop) (b : Buffer) : List (Instant × Label) → Prop
  | [] => True
  | s :: steps => (s.2.beginsWork = true → P b) ∧ (b.step s.1 s.2).StartsWhen P steps

/-- The adds and the flushes of a run do not overlap. -/
def TakesTurns (b : Buffer) (steps : List (Instant × Label)) : Prop := b.StartsWhen IsUnoccupied steps

instance decidableStartsWhen (P : Buffer → Prop) [DecidablePred P] (b : Buffer) :
    (steps : List (Instant × Label)) → Decidable (b.StartsWhen P steps)
  | [] => isTrue trivial
  | s :: steps =>
    have := decidableStartsWhen P (b.step s.1 s.2) steps
    inferInstanceAs (Decidable ((s.2.beginsWork = true → P b) ∧ _))

/-- An add or a flush under way was under way before, or its label begins it. -/
theorem step_isWork (h : ((b.step now label).stages task).IsWork) :
    (b.stages task).IsWork ∨ (task = label.task ∧ label.beginsWork = true) := by
  have back : ∀ stage next, b.Goes stage next → stage ≠ .idle → next.IsWork → stage.IsWork := by
    intro stage next goes idle hnext
    cases goes with
    | stay => exact hnext
    | add | view | flush => exact absurd rfl idle
    | finish | drop => exact hnext.elim
    | _ => trivial
  rcases step_holds_or_begins back h with hold | ⟨rfl, idle, begins⟩
  · exact .inl hold
  · cases label with
    | add | flush => exact .inr ⟨rfl, rfl⟩
    | view id =>
      change b.stages id = .idle at idle
      simp [step, begin, idle, Label.task, Stage.IsWork] at h
    | _ => cases begins

/-- One add or flush at most is under way. -/
def HasOneWorker (b : Buffer) : Prop :=
  ∀ task other, (b.stages task).IsWork → (b.stages other).IsWork → task = other

theorem HasOneWorker.step (h : b.HasOneWorker) (turn : label.beginsWork = true → b.IsUnoccupied)
    (now : Instant) : (b.step now label).HasOneWorker := by
  intro task other htask hother
  rcases step_isWork htask with hold | ⟨rfl, begins⟩
  · rcases step_isWork hother with hold' | ⟨rfl, begins⟩
    · exact h task other hold hold'
    · exact absurd hold (turn begins task)
  · rcases step_isWork hother with hold' | ⟨rfl, _⟩
    · exact absurd hold' (turn begins other)
    · rfl

theorem Stage.isWork_of_delivery {stage : Stage} {d : Delivery} (h : stage.delivery? = some d) :
    stage.IsWork := by
  cases stage with
  | sending _ | closing _ => trivial
  | _ => cases h

/-- No flush has a snapshot while the only worker spills. -/
theorem HasOneWorker.no_delivery (h : b.HasOneWorker) {expires : Instant}
    (stage : b.stages id = .spilling event expires) (task : TaskId) :
    (b.stages task).delivery? = none := by
  cases hdelivery : (b.stages task).delivery? with
  | none => rfl
  | some d =>
    obtain rfl := h task id (Stage.isWork_of_delivery hdelivery) (by rw [stage]; trivial)
    rw [stage] at hdelivery
    cases hdelivery

/-- Where both locks are free, no add and no flush is under way. -/
theorem IsFree.isUnoccupied (free : b.IsFree) (orderly : b.IsOrderly) : b.IsUnoccupied := by
  intro task hwork
  have hrest := (free.isQuiet orderly).isAtRest orderly task
  cases hstage : b.stages task <;> rw [hstage] at hrest hwork
  case idle | finished | dropped | viewing => exact hwork
  all_goals exact hrest

/-- Adds and flushes that begin where both locks are free take turns. -/
theorem takesTurns_of_free (orderly : b.IsOrderly)
    (free : b.StartsWhen (fun b => b.lock = {} ∧ b.flushLock = {}) steps) : b.TakesTurns steps := by
  induction steps generalizing b with
  | nil => trivial
  | cons s steps ih =>
    obtain ⟨hfree, hrest⟩ := free
    refine ⟨fun begins => ?_, ih (orderly.move (step_move s.1 b s.2)) hrest⟩
    obtain ⟨hlock, hflush⟩ := hfree begins
    exact IsFree.isUnoccupied ⟨hlock, hflush⟩ orderly

/-! ### What a flush names -/

/-- A flush under way names each event that it delivered once, and all that it delivered or has yet to try
waits in the buffer. -/
structure KeepsTrack (b : Buffer) : Prop where
  once : ∀ task d, (b.stages task).delivery? = some d → d.delivered.Nodup
  waits : ∀ task name, b.Carries task name → b.Waits name

/-- What waits goes on to wait, unless a spill ends or a flush does. -/
theorem Move.waits_or (move : Move now b id later) {name : String} (h : b.Waits name) :
    later.Waits name ∨ (∃ event expires, b.stages id = .spilling event expires) ∨
      ∃ d reply, b.stages id = .closing d ∧ later.stages id = .finished reply := by
  obtain ⟨event, hevent, hname⟩ := h
  have kept : event ∈ later.events → later.Waits name := fun hlater => ⟨event, hlater, hname⟩
  cases move with
  | put given =>
    refine .inl (kept ?_)
    rcases appendOrReject_cases b id given with hcase | hcase <;> rw [hcase]
    · exact List.mem_append_left _ hevent
    · exact hevent
  | stored given expires stage | notStored given expires stage =>
    exact .inr (.inl ⟨given, expires, stage⟩)
  | close d stage => exact .inr (.inr ⟨d, _, stage, Tasks.set_self _ _ _⟩)
  | _ => exact .inl (kept (by simpa using hevent))

/-- A flush names an event that it delivers only if it does not name it yet. -/
theorem Move.delivered_nodup (move : Move now b id later) {d : Delivery}
    (once : ∀ d, (b.stages id).delivery? = some d → d.delivered.Nodup)
    (h : (later.stages id).delivery? = some d) : d.delivered.Nodup := by
  have goes := move.goes
  generalize b.stages id = stage at goes once
  generalize later.stages id = next at goes h
  cases goes with
  | stay => exact once d h
  | snapshot limit d' hdelivered =>
    obtain rfl := Option.some.inj h
    rw [hdelivered]
    exact List.nodup_nil
  | tried d' event rest result remaining _ own =>
    have hd : d'.after event rest result = d := by
      rcases own with rfl | rfl <;> exact Option.some.inj h
    rw [← hd]
    cases result with
    | ok _ => exact (once d' rfl).insert
    | error _ => exact once d' rfl
  | late d' =>
    obtain rfl := Option.some.inj h
    exact once d' rfl
  | _ => cases h

theorem KeepsTrack.move (h : b.KeepsTrack) (move : Move now b id later) (apart : b.KeepsFlushesApart)
    (settled : ∀ event expires, b.stages id = .spilling event expires →
      ∀ task, (b.stages task).delivery? = none) : later.KeepsTrack where
  once task d hd := by
    by_cases htask : task = id
    · subst htask
      exact move.delivered_nodup (h.once task) hd
    · rw [move.stages_other htask] at hd
      exact h.once task d hd
  waits task name hcarries := by
    rcases move.carries hcarries with hold | ⟨hwaits, limit, _, reading⟩
    · rcases move.waits_or (h.waits task name hold) with
        hlater | ⟨event, expires, stage⟩ | ⟨d, reply, stage, hover⟩
      · exact hlater
      · obtain ⟨d, hd, _⟩ := hold
        rw [settled event expires stage task] at hd
        cases hd
      · -- the flush that is over is the only one that had a snapshot, so nothing is named any more
        obtain ⟨d', hd', _⟩ := hold
        obtain rfl := apart.eq (Stage.isPastLock_of_delivery hd')
          (by rw [stage]; trivial : (b.stages id).IsPastLock)
        obtain ⟨_, hd, _⟩ := hcarries
        rw [hover] at hd
        cases hd
    · rcases move.waits_or hwaits with hlater | ⟨_, _, stage⟩ | ⟨_, _, stage, _⟩
      · exact hlater
      · rw [reading] at stage
        cases stage
      · rw [reading] at stage
        cases stage

theorem start_keepsTrack (settings : Settings) (hasSink hasTransport : Bool) :
    (start settings hasSink hasTransport).KeepsTrack where
  once _ _ h := by cases h
  waits task name h := absurd h (start_not_carries settings hasSink hasTransport task name)

/-! ### The counters -/

@[simp]
theorem goOn_metrics (b : Buffer) (id : TaskId) (d : Delivery) : (b.goOn id d).metrics = b.metrics := by
  unfold goOn
  split <;> rfl

@[simp]
theorem snapshot_metrics (b : Buffer) (now : Instant) (id : TaskId) (limit : Duration) :
    (b.snapshot now id limit).metrics = b.metrics := by
  unfold snapshot
  dsimp only
  split <;> rfl

@[simp]
theorem abort_metrics (b : Buffer) (id : TaskId) : (b.abort id).metrics = b.metrics := by
  unfold abort
  split <;> rfl

/-- What was appended still waits, or overflow storage took it, or a flush took it out; and the counters
show how much that is. -/
structure IsTallied (b : Buffer) (appended flushed : Nat) : Prop where
  balance : appended = b.events.length + b.persisted.length + flushed
  buffered : b.metrics.buffered.value = UInt64.ofNat appended
  persisted : b.metrics.persisted.value = UInt64.ofNat b.persisted.length
  flushed : b.metrics.flushed.value = UInt64.ofNat flushed

namespace IsTallied

theorem congr (h : b.IsTallied appended flushed) (events : later.events = b.events)
    (persisted : later.persisted = b.persisted) (metrics : later.metrics = b.metrics) :
    later.IsTallied appended flushed where
  balance := by rw [events, persisted]; exact h.balance
  buffered := by rw [metrics]; exact h.buffered
  persisted := by rw [metrics, persisted]; exact h.persisted
  flushed := by rw [metrics]; exact h.flushed

theorem append (h : b.IsTallied appended flushed) (id : TaskId) (event : Event) :
    (b.append id event).IsTallied (appended + 1) flushed where
  balance := by
    have hbalance := h.balance
    show appended + 1 = (b.events ++ [event]).length + b.persisted.length + flushed
    rw [List.length_append, List.length_singleton]
    omega
  buffered := by
    show b.metrics.buffered.value + 1 = _
    rw [h.buffered, UInt64.ofNat_add]
    rfl
  persisted := h.persisted
  flushed := h.flushed

theorem reject (h : b.IsTallied appended flushed) (id : TaskId) :
    (b.reject id).IsTallied appended flushed := ⟨h.balance, h.buffered, h.persisted, h.flushed⟩

theorem spilled (h : b.IsTallied appended flushed) : b.spilled.IsTallied appended flushed where
  balance := by
    have hbalance := h.balance
    rw [spilled_events, spilled_persisted, List.length_append, List.length_nil]
    omega
  buffered := h.buffered
  persisted := by
    show b.metrics.persisted.value + UInt64.ofNat b.events.length = _
    rw [h.persisted, spilled_persisted, List.length_append, UInt64.ofNat_add]
  flushed := h.flushed

end IsTallied

/-- Of events with distinct identifiers, as many go as there are names for them. -/
theorem length_filter_add (distinct : (events.map Event.id).Nodup) (once : names.Nodup)
    (waits : ∀ name ∈ names, ∃ event ∈ events, event.id = name) :
    (events.filter fun event => !names.contains event.id).length + names.length = events.length := by
  have named : ((events.filter fun event => names.contains event.id).map Event.id).Perm names := by
    refine (List.perm_ext_iff_of_nodup (distinct.sublist (List.filter_sublist.map _)) once).mpr
      fun name => ⟨fun hmem => ?_, fun hname => ?_⟩
    · obtain ⟨event, hevent, rfl⟩ := List.mem_map.mp hmem
      simpa using (List.mem_filter.mp hevent).2
    · obtain ⟨event, hevent, rfl⟩ := waits name hname
      exact List.mem_map_of_mem (List.mem_filter.mpr ⟨hevent, by simpa using hname⟩)
  have hlength := named.length_eq
  have hparts := List.length_eq_length_filter_add (l := events) fun event => names.contains event.id
  rw [List.length_map] at hlength
  omega

/-- A flush takes out as many events as it names, if all of them wait. -/
theorem IsTallied.close (h : b.IsTallied appended flushed) (distinct : (b.events.map Event.id).Nodup)
    (track : b.KeepsTrack) {d : Delivery} (stage : b.stages id = .closing d) :
    (b.close id d).IsTallied appended (flushed + d.delivered.length) where
  balance := by
    have hdelivery : (b.stages id).delivery? = some d := by rw [stage]; rfl
    have waits : ∀ name ∈ d.delivered, b.Waits name := fun name hname =>
      track.waits id name ⟨d, hdelivery, List.mem_append_left _ hname⟩
    have hparts := length_filter_add distinct (track.once id d hdelivery) waits
    have hbalance := h.balance
    rw [close_events, close_persisted, List.length_map]
    omega
  buffered := h.buffered
  persisted := h.persisted
  flushed := by
    show b.metrics.flushed.value + UInt64.ofNat d.delivered.length = _
    rw [h.flushed, UInt64.ofNat_add]

/-- Every move keeps the tally, with the event that it appends. -/
theorem IsTallied.move (h : b.IsTallied appended flushed) (move : Move now b id later)
    (spills : b.SpillsWhenFull) (distinct : (b.events.map Event.id).Nodup) (track : b.KeepsTrack) :
    ∃ flushed', later.IsTallied (appended + (b.appendedBy? later id).toList.length) flushed' := by
  have kept : b.appendedBy? later id = none → later.events = b.events →
      later.persisted = b.persisted → later.metrics = b.metrics →
      ∃ flushed', later.IsTallied (appended + (b.appendedBy? later id).toList.length) flushed' := by
    intro hnone events persisted metrics
    rw [hnone]
    exact ⟨flushed, h.congr events persisted metrics⟩
  cases move with
  | put event stage held fresh =>
    refine ⟨flushed, ?_⟩
    rcases appendOrReject_cases b id event with hcase | hcase <;> rw [hcase]
    · rw [appendedBy?_append stage fresh]
      exact h.append id event
    · rw [appendedBy?_reject]
      exact h.reject id
  | stored event expires stage =>
    refine ⟨flushed, ?_⟩
    rcases appendOrReject_cases b.spilled id event with hcase | hcase <;> rw [hcase]
    · rw [appendedBy?_append_of_spilling stage]
      exact h.spilled.append id event
    · rw [appendedBy?_reject]
      exact h.spilled.reject id
  | notStored event expires stage =>
    -- nothing was handed over, so the buffer is as full as before
    rcases appendOrReject_eq b id event with ⟨room, _⟩ | ⟨_, hcase⟩
    · exact absurd room (Nat.not_lt.mpr (spills.full stage))
    · rw [hcase, appendedBy?_reject]
      exact ⟨flushed, h.reject id⟩
  | close d stage =>
    rw [appendedBy?_of_event? (by rw [stage]; rfl)]
    exact ⟨_, h.close distinct track stage⟩
  | known event stage held known => exact kept (appendedBy?_of_known stage known) rfl rfl rfl
  | spill event stage => exact kept (by simp [appendedBy?, stage]) rfl rfl rfl
  | stay => exact kept (appendedBy?_eq_none (.inl rfl)) rfl rfl rfl
  | drop => exact kept (appendedBy?_abort b id) (by simp) (by simp) (by simp)
  | snapshot limit stage | sent d event rest stage | notSent d event rest error stage =>
    exact kept (appendedBy?_of_event? (by rw [stage]; rfl)) (by simp) (by simp) (by simp)
  | add event stage | view stage | flush limit stage | noTransport stage | read limit stage | late d stage
  | viewed stage => exact kept (appendedBy?_of_event? (by rw [stage]; rfl)) rfl rfl rfl

/-! ### Along a run -/

/-- Everything in a buffer is in order, and its counters are right. -/
structure IsBalanced (b : Buffer) (appended : List Event) : Prop where
  orderly : b.IsOrderly
  spills : b.SpillsWhenFull
  queue : b.IsQueue appended
  worker : b.HasOneWorker
  track : b.KeepsTrack
  refusals : b.CountsRefusals
  tally : ∃ flushed, b.IsTallied appended.length flushed

variable {sofar : List Event}

theorem IsBalanced.step (h : b.IsBalanced sofar) (turn : label.beginsWork = true → b.IsUnoccupied)
    (now : Instant) :
    (b.step now label).IsBalanced
      (sofar ++ (b.appendedBy? (b.step now label) label.task).toList) := by
  have move := step_move now b label
  obtain ⟨flushed, tally⟩ := h.tally
  refine ⟨h.orderly.move move, h.spills.move move, h.queue.move move h.spills, h.worker.step turn now,
    h.track.move move h.orderly.apart fun event expires stage => h.worker.no_delivery stage,
    h.refusals.move move, ?_⟩
  rw [List.length_append]
  exact tally.move move h.spills h.queue.distinct h.track

theorem IsBalanced.run (h : b.IsBalanced sofar) (turns : b.TakesTurns steps) :
    (b.run steps).IsBalanced (sofar ++ b.appended steps) := by
  induction steps generalizing b sofar with
  | nil =>
    rw [Buffer.appended, List.append_nil]
    exact h
  | cons s steps ih =>
    rw [run_cons, Buffer.appended, ← List.append_assoc]
    exact ih (h.step turns.1 s.1) turns.2

theorem start_isBalanced (settings : Settings) (hasSink hasTransport : Bool) :
    (start settings hasSink hasTransport).IsBalanced [] where
  orderly := start_isOrderly settings hasSink hasTransport
  spills := start_spillsWhenFull settings hasSink hasTransport
  queue := start_isQueue settings hasSink hasTransport
  worker _ _ h := h.elim
  track := start_keepsTrack settings hasSink hasTransport
  refusals := start_countsRefusals settings hasSink hasTransport
  tally := ⟨0, rfl, rfl, rfl, rfl⟩

/-- **The accounts balance.**  Whatever the capacity, whatever storage and transport answer or fail to answer,
however many flushes run out of time, and wherever flushes and adds are abandoned: while adds and flushes take
turns, at every instant every event that was counted as appended still waits, or is counted as handed over or
as taken out by a flush, and the counter of refused events shows how many adds ended so.  That holds of the
counters as they wrap, and of the numbers for which they stand as long as these are below `2 ^ 64`. -/
theorem accounts_balance (settings : Settings) (hasSink hasTransport : Bool)
    (turns : (start settings hasSink hasTransport).TakesTurns steps) :
    let b := start settings hasSink hasTransport
    let later := b.run steps
    let metrics := later.metrics
    metrics.buffered.value
        = UInt64.ofNat later.events.length + metrics.persisted.value + metrics.flushed.value ∧
      later.refusals.Finite ∧ metrics.dropped.value = UInt64.ofNat later.refusals.ncard ∧
      ((b.appended steps).length < UInt64.size →
        metrics.buffered.value.toNat = (b.appended steps).length ∧
          metrics.buffered.value.toNat
            = later.events.length + metrics.persisted.value.toNat + metrics.flushed.value.toNat) ∧
      (later.refusals.ncard < UInt64.size → metrics.dropped.value.toNat = later.refusals.ncard) := by
  intro b later metrics
  have balanced : later.IsBalanced (b.appended steps) :=
    (start_isBalanced settings hasSink hasTransport).run turns
  obtain ⟨flushed, tally⟩ := balanced.tally
  have hbalance := tally.balance
  refine ⟨?_, balanced.refusals.finite, balanced.refusals.count, fun word => ?_, fun word => ?_⟩
  · rw [tally.buffered, tally.persisted, tally.flushed, hbalance, UInt64.ofNat_add, UInt64.ofNat_add]
  · have hpersisted : later.persisted.length < UInt64.size := by omega
    have hflushed : flushed < UInt64.size := by omega
    rw [tally.buffered, tally.persisted, tally.flushed, UInt64.toNat_ofNat_of_lt' word,
      UInt64.toNat_ofNat_of_lt' hpersisted, UInt64.toNat_ofNat_of_lt' hflushed]
    exact ⟨rfl, hbalance⟩
  · have hcount : metrics.dropped.value = UInt64.ofNat later.refusals.ncard := balanced.refusals.count
    rw [hcount, UInt64.toNat_ofNat_of_lt' word]

/-- An event is added twice, a full buffer refuses a third one and hands over two for the next add; one flush
delivers a part, one runs out of time after a delivery, and one is abandoned after a delivery. -/
theorem accounts_balance_after_cancellations :
    let event (id : String) : Event := ⟨id, "topic", "key", [], .clockStart, 0⟩
    let b := start { capacity := 2 } true true
    let steps : List (Instant × Label) := [(0, .add 0 (event "a")), (0, .resume 0),
      (1, .add 1 (event "a")), (1, .resume 1), (2, .add 2 (event "b")), (2, .resume 2),
      (3, .add 3 (event "c")), (3, .resume 3), (4, .stored 3 (.error (.storage "disk"))),
      (5, .add 4 (event "c")), (5, .resume 4), (6, .stored 4 (.ok ())),
      (7, .add 5 (event "d")), (7, .resume 5), (8, .flush 6 10), (8, .resume 6), (8, .resume 6),
      (9, .sent 6 (.ok ())), (9, .sent 6 (.error (.transport "down"))), (9, .resume 6),
      (10, .add 7 (event "e")), (10, .resume 7), (11, .flush 8 10), (11, .resume 8), (11, .resume 8),
      (12, .sent 8 (.ok ())), (21, .sendExpired 8), (21, .resume 8), (22, .flush 9 10),
      (22, .resume 9), (22, .resume 9), (23, .sent 9 (.ok ())), (23, .abort 9)]
    let later := b.run steps
    b.TakesTurns steps ∧ (b.appended steps).length = 5 ∧
      later.events = [event "e"] ∧ later.metrics.persisted.value = 2 ∧
      later.metrics.flushed.value = 2 ∧ later.metrics.dropped.value = 1 ∧
      later.metrics.buffered.value.toNat
        = later.events.length + later.metrics.persisted.value.toNat
          + later.metrics.flushed.value.toNat ∧
      UInt64.ofNat later.refusals.ncard = 1 := by
  intro event b steps later
  have turns : b.TakesTurns steps :=
    takesTurns_of_free (start_isOrderly _ true true) (by decide +kernel)
  have number : (b.appended steps).length = 5 := by decide +kernel
  have left : later.events = [event "e"] := by decide +kernel
  have persisted : later.metrics.persisted.value = 2 := by decide +kernel
  have flushed : later.metrics.flushed.value = 2 := by decide +kernel
  have dropped : later.metrics.dropped.value = 1 := by decide +kernel
  have word : (b.appended steps).length < UInt64.size := by
    rw [number]
    decide
  obtain ⟨_, _, refused, balance, _⟩ := accounts_balance { capacity := 2 } true true turns
  refine ⟨turns, number, left, persisted, flushed, dropped, ?_, ?_⟩
  · simpa only [later, b] using (balance word).2
  · rw [← dropped]
    simpa only [later, b] using refused.symm

end ProfileGuard.Buffer
