import Mathlib.Control.Monad.Basic
import ProfileGuard.Proofs.Buffer.Course
import ProfileGuard.Proofs.Buffer.Waiting

/-!
# A flush does what it reports

A flush runs beside adds and views that spill nothing.  Its sends take as long and are answered as the course
says: a send that is not over at the deadline is given up, and one that is over just then counts.  If the clock
cannot tell when the flush is to be over, it breaks off before it sends anything.

The proof follows the flush through three phases.  It waits for the lock, then it sends, and then it waits
again and closes.  What goes on beside it only appends events, so in each phase the buffer holds the events of
the snapshot, or what is left of them, and behind them what came in since.

* **`Buffer.Label.IsBeside`** — what may go on beside a flush.
* **`Buffer.Hosts`** / **`Buffer.Hosts.beside`** — one flush is under way, and others only append.
* **`Buffer.Course.IsTimely`** — the flush goes on as its course says.
* **`Buffer.Course.exists_snapshot`** — the flush takes its snapshot.
* **`Buffer.Course.Progress`** / **`Buffer.Course.Progress.run`** — the invariant from the snapshot on.
* **`Buffer.Course.run_after_breakOff`** — what goes on beside a flush that has broken off.
* **`Buffer.Course.flush_does_what_it_reports`** — the whole flush; **`flush_reports_nothing`** — one that breaks
  off.
-/

namespace ProfileGuard.Buffer

deriving instance DecidableEq for Label

variable {now began since : Instant} {b later : Buffer} {id task : TaskId} {label : Label}
  {limit : Duration} {s : Instant × Label} {steps : List (Instant × Label)}

/-! ### What goes on beside a flush -/

/-- A step that begins no flush, and by which overflow storage takes nothing. -/
def Label.IsBeside : Label → Prop
  | flush _ _ | stored _ (.ok _) => False
  | _ => True

/-- In a buffer where everything is in order, no flush but one is under way. -/
structure Hosts (b : Buffer) (id : TaskId) : Prop where
  orderly : b.IsOrderly
  spills : b.SpillsWhenFull
  queue : ∃ appended, b.IsQueue appended
  sole : ∀ task, (b.stages task).IsFlush → task = id

/-- From one buffer to another, events were appended and nothing else happened to those that wait or were
delivered. -/
structure Grows (b later : Buffer) (appended : List Event) : Prop where
  events : later.events = b.events ++ appended
  delivered : later.delivered = b.delivered
  flushed : later.metrics.flushed = b.metrics.flushed

theorem Grows.refl (b : Buffer) : b.Grows b [] := ⟨(List.append_nil _).symm, rfl, rfl⟩

theorem Grows.trans {next : Buffer} {appended more : List Event} (h : b.Grows later appended)
    (h' : later.Grows next more) : b.Grows next (appended ++ more) where
  events := by rw [h'.events, h.events, List.append_assoc]
  delivered := h'.delivered.trans h.delivered
  flushed := h'.flushed.trans h.flushed

/-- A flush under way was under way before, or its label begins it. -/
theorem step_isFlush (h : ((b.step now label).stages task).IsFlush) :
    (b.stages task).IsFlush ∨ ∃ limit, label = .flush task limit := by
  have back : ∀ stage next, b.Goes stage next → stage ≠ .idle → next.IsFlush → stage.IsFlush := by
    intro stage next goes idle hnext
    cases goes with
    | stay => exact hnext
    | add | view | flush => exact absurd rfl idle
    | finish | drop => exact hnext.elim
    | spill => exact hnext.elim
    | _ => trivial
  rcases step_holds_or_begins back h with hold | ⟨rfl, idle, begins⟩
  · exact .inl hold
  · cases label with
    | flush id limit => exact .inr ⟨limit, rfl⟩
    | add id event | view id =>
      change b.stages id = .idle at idle
      simp [step, begin, idle, Label.task, Stage.IsFlush] at h
    | _ => cases begins

theorem Hosts.step (h : b.Hosts id) (beside : ∀ task limit, label = .flush task limit → task = id)
    (now : Instant) : (b.step now label).Hosts id := by
  have move := step_move now b label
  obtain ⟨appended, queue⟩ := h.queue
  refine ⟨h.orderly.move move, h.spills.move move, ⟨_, queue.move move h.spills⟩, fun task hflush => ?_⟩
  rcases step_isFlush hflush with hold | ⟨limit, hlabel⟩
  · exact h.sole task hold
  · exact beside task limit hlabel

theorem Move.delivered_eq (move : Move now b id later) (notSending : ∀ d, b.stages id ≠ .sending d) :
    later.delivered = b.delivered := by
  cases move with
  | sent d event rest stage => exact absurd stage (notSending d)
  | _ => simp

theorem Move.flushed_eq (move : Move now b id later) (notClosing : ∀ d, b.stages id ≠ .closing d) :
    later.metrics.flushed = b.metrics.flushed := by
  cases move with
  | close d stage => exact absurd stage (notClosing d)
  | put event | notStored event =>
    rcases appendOrReject_cases b id event with h | h <;> rw [h] <;> rfl
  | stored event =>
    rcases appendOrReject_cases b.spilled id event with h | h <;> rw [h] <;> rfl
  | snapshot limit =>
    unfold Buffer.snapshot
    dsimp only
    split <;> rfl
  | sent d event rest | notSent d event rest error =>
    unfold goOn
    split <;> rfl
  | drop =>
    unfold Buffer.abort
    split <;> rfl
  | _ => rfl

/-- A step that hands nothing over, and is not that of a flush that closes, appends what it appends. -/
theorem Hosts.events_step (h : b.Hosts id) (beside : label.IsBeside)
    (notClosing : ∀ d, b.stages label.task ≠ .closing d) (now : Instant) :
    (b.step now label).events
      = b.events ++ (b.appendedBy? (b.step now label) label.task).toList := by
  cases (step_move now b label).alters h.spills with
  | same events appended => rw [events, appended, Option.toList_none, List.append_nil]
  | append event fresh room events appended => rw [events, appended, Option.toList_some]
  | handOver persisted room events =>
    have noStore : ∀ task, label ≠ .stored task (.ok ()) := by
      rintro task rfl
      exact beside
    rw [step_persisted noStore, List.self_eq_append_right] at persisted
    rw [events, persisted, List.nil_append]
  | takeOut d stage => exact absurd stage (notClosing d)

/-- What others do beside a flush only appends events. -/
theorem Hosts.beside (h : b.Hosts id) (other : label.task ≠ id) (beside : label.IsBeside)
    (now : Instant) :
    (b.step now label).stages id = b.stages id ∧
      b.Grows (b.step now label) (b.appendedBy? (b.step now label) label.task).toList := by
  have move := step_move now b label
  have notFlush : ¬ (b.stages label.task).IsFlush := fun hflush => other (h.sole _ hflush)
  have notSending : ∀ d, b.stages label.task ≠ .sending d :=
    fun d hstage => notFlush (by rw [hstage]; trivial)
  have notClosing : ∀ d, b.stages label.task ≠ .closing d :=
    fun d hstage => notFlush (by rw [hstage]; trivial)
  exact ⟨move.stages_other other.symm, h.events_step beside notClosing now,
    move.delivered_eq notSending, move.flushed_eq notClosing⟩

/-! ### The course of a flush -/

/-- The event that a flush sends. -/
def Stage.sending? : Stage → Option Event
  | sending d => d.remaining.head?
  | _ => none

/-- The events whose sends a flush begins along a run, in their order. -/
def attempted (id : TaskId) (b : Buffer) : List (Instant × Label) → List Event
  | [] => []
  | s :: steps =>
    (if s.2.task = id then ((b.step s.1 s.2).stages id).sending?.toList else []) ++
      (b.step s.1 s.2).attempted id steps

theorem attempted_append (id : TaskId) (b : Buffer) (before after : List (Instant × Label)) :
    b.attempted id (before ++ after) = b.attempted id before ++ (b.run before).attempted id after := by
  induction before generalizing b with
  | nil => rfl
  | cons s before ih => rw [List.cons_append, attempted, attempted, ih, List.append_assoc, run_cons]

namespace Course

variable (c : Course)

/-- How the send of an event ends that began at an instant: with its answer, or because the time is over. -/
def ending (id : TaskId) (expires since : Instant) (event : Event) : Instant × Label :=
  if since + c.latency event ≤ expires then (since + c.latency event, .sent id (c.answer event))
  else (expires, .sendExpired id)

/-- The next step of a flush, if it sends something since an instant, is the end of that send; and otherwise
the flush goes on with a lock. -/
def IsNext (id : TaskId) (b : Buffer) (since : Instant) (s : Instant × Label) : Prop :=
  match b.stages id with
  | .sending d => d.remaining.head?.map (c.ending id d.expires since) = some s
  | _ => s.2 = .resume id

instance (id : TaskId) (b : Buffer) (since : Instant) (s : Instant × Label) :
    Decidable (c.IsNext id b since s) :=
  decidable_of_iff
    ((match b.stages id with
      | .sending d => decide (d.remaining.head?.map (c.ending id d.expires since) = some s)
      | _ => decide (s.2 = .resume id)) = true)
    (by unfold IsNext; split <;> simp)

/-- The steps of a flush along a run come as its course says; each send begins with the step before. -/
def IsTimely (id : TaskId) (b : Buffer) (since : Instant) : List (Instant × Label) → Prop
  | [] => True
  | s :: steps =>
    (s.2.task = id → c.IsNext id b since s) ∧
      IsTimely id (b.step s.1 s.2) (if s.2.task = id then s.1 else since) steps

instance decidableIsTimely (id : TaskId) (b : Buffer) (since : Instant) :
    (steps : List (Instant × Label)) → Decidable (c.IsTimely id b since steps)
  | [] => isTrue trivial
  | s :: steps =>
    have := decidableIsTimely id (b.step s.1 s.2) (if s.2.task = id then s.1 else since) steps
    inferInstanceAs (Decidable ((s.2.task = id → c.IsNext id b since s) ∧ _))

variable {c}

/-! ### The flush waits for the lock -/

/-- A flush waits for its snapshot. -/
def IsWaiting (b : Buffer) (id : TaskId) (limit : Duration) : Prop :=
  b.stages id = .flushing limit ∨ b.stages id = .reading limit

/-- A flush that goes on without the lock on the events still waits for it. -/
theorem resume_waiting (waiting : IsWaiting b id limit)
    (free : b.stages id = .reading limit → b.lock.isHeldBy id = false) (now : Instant) :
    IsWaiting (b.step now (.resume id)) id limit ∧ b.Grows (b.step now (.resume id)) [] ∧
      b.appendedBy? (b.step now (.resume id)) id = none := by
  unfold IsWaiting
  rcases waiting with stage | stage
  · by_cases held : b.flushLock.isHeldBy id = true
    · simp [step, resume, stage, held, appendedBy?]
      exact ⟨(List.append_nil _).symm, rfl, rfl⟩
    · simp [step, resume, stage, held, appendedBy?]
      exact Grows.refl b
  · simp [step, resume, stage, free stage, appendedBy?]
    exact Grows.refl b

theorem IsWaiting.sending? (waiting : IsWaiting b id limit) : (b.stages id).sending? = none := by
  rcases waiting with stage | stage <;> rw [stage] <;> rfl

theorem IsWaiting.not_isAtRest (waiting : IsWaiting b id limit) : ¬ (b.stages id).IsAtRest := by
  rcases waiting with stage | stage <;> rw [stage] <;> exact not_false

theorem IsWaiting.isNext (waiting : IsWaiting b id limit) (h : c.IsNext id b since s) :
    s.2 = .resume id := by
  unfold IsNext at h
  rcases waiting with stage | stage <;> rw [stage] at h <;> exact h

theorem not_flush_of_isBeside (beside : label.IsBeside) (task : TaskId) (limit : Duration)
    (h : label = .flush task limit) : task = id := by
  subst h
  exact beside.elim

/-- A flush that is over at the end of a run took its snapshot in between. -/
theorem exists_snapshot (hosts : b.Hosts id) (waiting : IsWaiting b id limit)
    (beside : ∀ s ∈ steps, s.2.IsBeside) (timely : c.IsTimely id b since steps)
    (ended : ((b.run steps).stages id).IsAtRest) :
    ∃ before taken after, steps = before ++ (taken, .resume id) :: after ∧
      (b.run before).Hosts id ∧ (b.run before).stages id = .reading limit ∧
      (b.run before).lock.isHeldBy id = true ∧ b.Grows (b.run before) (b.appended before) ∧
      b.attempted id before = [] ∧
      c.IsTimely id ((b.run before).step taken (.resume id)) taken after := by
  induction steps generalizing b since with
  | nil => exact absurd ended waiting.not_isAtRest
  | cons s steps ih =>
    obtain ⟨hnext, hlater⟩ := timely
    obtain ⟨now, label⟩ := s
    have hbeside : label.IsBeside := beside _ List.mem_cons_self
    have hhosts := hosts.step (not_flush_of_isBeside hbeside) now
    by_cases ready : label.task = id ∧ b.stages id = .reading limit ∧ b.lock.isHeldBy id = true
    · obtain ⟨own, reading, held⟩ := ready
      obtain rfl : label = .resume id := waiting.isNext (hnext own)
      refine ⟨[], now, steps, rfl, hosts, reading, held, Grows.refl b, rfl, ?_⟩
      rwa [if_pos own] at hlater
    · -- the flush still waits after this step, which is one more before the snapshot
      obtain ⟨hwaits, hgrows⟩ : IsWaiting (b.step now label) id limit ∧
          b.Grows (b.step now label) (b.appendedBy? (b.step now label) label.task).toList := by
        by_cases own : label.task = id
        · obtain rfl : label = .resume id := waiting.isNext (hnext own)
          have free : b.stages id = .reading limit → b.lock.isHeldBy id = false :=
            fun stage => Bool.eq_false_iff.mpr fun held => ready ⟨own, stage, held⟩
          obtain ⟨hwaits, hgrows, hnone⟩ := resume_waiting waiting free now
          refine ⟨hwaits, ?_⟩
          show b.Grows _ (b.appendedBy? _ id).toList
          rw [hnone]
          exact hgrows
        · obtain ⟨hstage, hgrows⟩ := hosts.beside own hbeside now
          refine ⟨?_, hgrows⟩
          unfold IsWaiting
          rw [hstage]
          exact waiting
      obtain ⟨before, taken, after, rfl, hosts', reading, held, grows, none, timely'⟩ :=
        ih hhosts hwaits (fun s hs => beside s (List.mem_cons_of_mem _ hs)) hlater ended
      refine ⟨(now, label) :: before, taken, after, rfl, hosts', reading, held, hgrows.trans grows,
        ?_, timely'⟩
      simp only [attempted, none, hwaits.sending?, Option.toList_none, ite_self, List.append_nil]

/-! ### From the snapshot on -/

/-- A flush that has its snapshot. -/
structure Round where
  id : TaskId
  limit : Duration
  /-- When the snapshot was taken. -/
  taken : Instant
  /-- The snapshot. -/
  events : List Event
  /-- What flushes had delivered before, and what was counted. -/
  delivered : List Event
  flushed : UInt64

/-- What a buffer holds while some events of a snapshot were tried and none taken out. -/
structure Round.Pending (c : Course) (r : Round) (b : Buffer) (tried appended : List Event) : Prop where
  events : b.events = r.events ++ appended
  delivered : b.delivered = r.delivered ++ tried.filter c.delivers
  flushed : b.metrics.flushed.value = r.flushed

/-- What a buffer holds when what was delivered has been taken out. -/
structure Round.Settled (c : Course) (r : Round) (b : Buffer) (appended : List Event) : Prop where
  events : b.events = c.left r.limit r.events ++ appended
  delivered : b.delivered = r.delivered ++ (c.completed r.limit r.events).filter c.delivers
  flushed : b.metrics.flushed.value
    = r.flushed + UInt64.ofNat ((c.completed r.limit r.events).filter c.delivers).length

/-- How far a flush with a snapshot has come: the last step of it, what was appended since the snapshot, and
the events whose sends it has begun. -/
inductive Progress (c : Course) (r : Round) (b : Buffer) (since : Instant)
    (appended begun : List Event) : Prop where
  | sending (tried : List Event) (event : Event) (rest : List Event)
      (snapshot : r.events = tried ++ event :: rest)
      (stage : b.stages r.id
        = .sending (c.delivery r.limit (r.taken + r.limit) tried (event :: rest)))
      (time : since = r.taken + c.total tried) (fits : c.total tried ≤ r.limit)
      (pending : r.Pending c b tried appended) (begun : begun = tried ++ [event])
  | closing (rest : List Event)
      (stage : b.stages r.id = .closing (c.concluded r.limit (r.taken + r.limit) r.events rest))
      (pending : r.Pending c b (c.completed r.limit r.events) appended)
      (begun : begun = r.events.take ((c.completed r.limit r.events).length + 1))
  | ended (stage : b.stages r.id = .finished (.flushed (c.report r.limit r.events)))
      (settled : r.Settled c b appended)
      (begun : begun = r.events.take ((c.completed r.limit r.events).length + 1))

variable {r : Round} {appended begun more tried rest : List Event} {event : Event} {expires : Instant}

theorem Round.Pending.grows (h : r.Pending c b tried appended) (grows : b.Grows later more) :
    r.Pending c later tried (appended ++ more) where
  events := by rw [grows.events, h.events, List.append_assoc]
  delivered := grows.delivered.trans h.delivered
  flushed := grows.flushed ▸ h.flushed

theorem Round.Settled.grows (h : r.Settled c b appended) (grows : b.Grows later more) :
    r.Settled c later (appended ++ more) where
  events := by rw [grows.events, h.events, List.append_assoc]
  delivered := grows.delivered.trans h.delivered
  flushed := grows.flushed ▸ h.flushed

/-- What others do beside a flush that has its snapshot. -/
theorem Progress.beside (h : c.Progress r b since appended begun)
    (stage : later.stages r.id = b.stages r.id) (grows : b.Grows later more) :
    c.Progress r later since (appended ++ more) begun := by
  cases h with
  | sending tried event rest snapshot hstage time fits pending hbegun =>
    exact .sending tried event rest snapshot (stage.trans hstage) time fits (pending.grows grows) hbegun
  | closing rest hstage pending hbegun =>
    exact .closing rest (stage.trans hstage) (pending.grows grows) hbegun
  | ended hstage settled hbegun => exact .ended (stage.trans hstage) (settled.grows grows) hbegun

/-- A send that is answered. -/
theorem step_sent (stage : b.stages id = .sending (c.delivery limit expires tried (event :: rest)))
    (now : Instant) :
    b.step now (.sent id (c.answer event)) =
      { b with delivered := b.delivered ++ [event].filter c.delivers }.goOn id
        (c.delivery limit expires (tried ++ [event]) rest) := by
  rw [← delivery_after]
  cases hanswer : c.answer event with
  | ok _ => simp [step, stage, delivers, hanswer]
  | error failure => simp [step, stage, delivers, hanswer]

/-- After an answer the flush sends its next event, or it closes. -/
theorem Progress.answered (snapshot : r.events = tried ++ event :: rest)
    (stage : b.stages r.id
      = .sending (c.delivery r.limit (r.taken + r.limit) tried (event :: rest)))
    (fits : c.total tried + c.latency event ≤ r.limit) (pending : r.Pending c b tried appended) :
    let later := b.step (r.taken + c.total tried + c.latency event) (.sent r.id (c.answer event))
    c.Progress r later (r.taken + c.total tried + c.latency event) appended
      (tried ++ [event] ++ (later.stages r.id).sending?.toList) := by
  intro later
  have hlater : later = _ := step_sent stage _
  have htotal : c.total (tried ++ [event]) ≤ r.limit := c.total_concat ▸ fits
  have hpending : ∀ final : Buffer, final.events = b.events →
      final.delivered = b.delivered ++ [event].filter c.delivers → final.metrics = b.metrics →
      r.Pending c final (tried ++ [event]) appended := by
    intro final events delivered metrics
    refine ⟨events.trans pending.events, ?_, metrics ▸ pending.flushed⟩
    rw [delivered, pending.delivered, List.filter_append, List.append_assoc]
  cases rest with
  | nil =>
    have hcompleted : c.completed r.limit r.events = tried ++ [event] := by
      rw [snapshot]
      exact c.completed_eq_self htotal
    rw [hlater, goOn_of_nil (c.remaining_delivery _ _ _ _)]
    refine .closing [] ?_ ?_ ?_
    · unfold concluded
      rw [hcompleted, snapshot]
      simp [delivery]
    · rw [hcompleted]
      exact hpending _ rfl rfl rfl
    · rw [hcompleted, snapshot, List.take_of_length_le (Nat.le_succ _)]
      simp [Stage.sending?]
  | cons next rest =>
    rw [hlater, goOn_of_cons (c.remaining_delivery _ _ _ _)]
    refine .sending (tried ++ [event]) next rest ?_ ?_ ?_ htotal (hpending _ rfl rfl rfl) ?_
    · simp [snapshot]
    · simp
    · rw [total_concat, Nat.add_assoc]
    · simp [Stage.sending?]

/-- At the deadline the flush closes without the send that is under way. -/
theorem Progress.gaveUp (snapshot : r.events = tried ++ event :: rest)
    (stage : b.stages r.id
      = .sending (c.delivery r.limit (r.taken + r.limit) tried (event :: rest)))
    (fits : c.total tried ≤ r.limit) (late : r.limit < c.total tried + c.latency event)
    (pending : r.Pending c b tried appended) (now since : Instant) :
    c.Progress r (b.step now (.sendExpired r.id)) since appended
      (tried ++ [event] ++ ((b.step now (.sendExpired r.id)).stages r.id).sending?.toList) := by
  have hlater : b.step now (.sendExpired r.id) = b.requestClose r.id
      { c.delivery r.limit (r.taken + r.limit) tried (event :: rest) with cancelled := true } := by
    simp [step, stage]
  have hcompleted : c.completed r.limit r.events = tried := by
    rw [snapshot]
    exact c.completed_of_late fits late
  rw [hlater]
  refine .closing (event :: rest) ?_ ?_ ?_
  · unfold concluded
    rw [hcompleted, snapshot]
    simp
  · rw [hcompleted]
    exact ⟨pending.events, pending.delivered, pending.flushed⟩
  · rw [hcompleted, snapshot, List.take_length_add_append]
    simp [Stage.sending?]

/-- With the lock the flush takes out what it delivered, and reports. -/
theorem Progress.closed (hosts : b.Hosts r.id) (rest : List Event)
    (pending : r.Pending c b (c.completed r.limit r.events) appended) (since : Instant) :
    c.Progress r (b.close r.id (c.concluded r.limit (r.taken + r.limit) r.events rest)) since appended
      (r.events.take ((c.completed r.limit r.events).length + 1)) := by
  obtain ⟨_, queue⟩ := hosts.queue
  have hsplit : c.completed r.limit r.events ++ r.events.drop (c.completed r.limit r.events).length
      = r.events := List.prefix_iff_eq_append.mp (c.completed_prefix r.limit r.events)
  have hdistinct : (r.events.map Event.id).Nodup := by
    have hall := queue.distinct
    rw [pending.events, List.map_append] at hall
    exact (List.nodup_append.mp hall).1
  refine .ended ?_ ⟨?_, pending.delivered, ?_⟩ rfl
  · rw [close_stages, Tasks.set_self, c.result_concluded hdistinct]
  · have hevents : b.events = c.completed r.limit r.events ++
        (r.events.drop (c.completed r.limit r.events).length ++ appended) := by
      rw [← List.append_assoc, hsplit, pending.events]
    rw [close_events, hevents, left, List.append_assoc]
    exact c.kept_delivery (hevents ▸ queue.distinct) r.limit (r.taken + r.limit) rest
  · have hnodup : ((c.completed r.limit r.events).map Event.id).Nodup :=
      ((c.completed_prefix r.limit r.events).sublist.map Event.id).nodup hdistinct
    have hnames := length_namesWith_filter hnodup c.delivers
    show b.metrics.flushed.value + UInt64.ofNat (namesWith [] _).length = _
    rw [hnames, pending.flushed]

/-- A step of the flush itself, once it has its snapshot. -/
theorem Progress.own (h : c.Progress r b since appended begun) (hosts : b.Hosts r.id)
    (next : c.IsNext r.id b since s) :
    c.Progress r (b.step s.1 s.2) s.1 appended
        (begun ++ ((b.step s.1 s.2).stages r.id).sending?.toList) ∧
      b.appendedBy? (b.step s.1 s.2) r.id = none := by
  unfold IsNext at next
  cases h with
  | sending tried event rest snapshot stage time fits pending hbegun =>
    rw [stage] at next
    obtain rfl : c.ending r.id (r.taken + r.limit) since event = s := Option.some.inj next
    refine ⟨?_, by simp [appendedBy?, stage]⟩
    subst hbegun time
    unfold ending
    split
    · rename_i hle
      have hfits : c.total tried + c.latency event ≤ r.limit :=
        Nat.le_of_add_le_add_left (Nat.add_assoc _ _ _ ▸ hle)
      exact Progress.answered snapshot stage hfits pending
    · rename_i hlate
      have hlate : r.limit < c.total tried + c.latency event :=
        Nat.lt_of_add_lt_add_left (Nat.add_assoc _ _ _ ▸ Nat.lt_of_not_le hlate)
      exact Progress.gaveUp snapshot stage fits hlate pending _ _
  | closing rest stage pending hbegun =>
    rw [stage] at next
    rw [next]
    refine ⟨?_, by simp [appendedBy?, stage]⟩
    by_cases held : b.lock.isHeldBy r.id = true
    · have hclose : b.step s.1 (.resume r.id)
          = b.close r.id (c.concluded r.limit (r.taken + r.limit) r.events rest) := by
        simp only [step, resume, stage, held, if_true]
      rw [hclose, close_stages, Tasks.set_self, hbegun]
      simpa [Stage.sending?] using Progress.closed hosts rest pending s.1
    · have hsame : b.step s.1 (.resume r.id) = b := by simp [step, resume, stage, held]
      rw [hsame, stage]
      exact .closing rest stage pending (by rw [hbegun]; exact List.append_nil _)
  | ended stage settled hbegun =>
    rw [stage] at next
    have hsame : b.step s.1 s.2 = b := by
      rw [next]
      simp [step, resume, stage]
    rw [hsame]
    refine ⟨?_, appendedBy?_eq_none (.inl rfl)⟩
    rw [stage]
    exact .ended stage settled (by rw [hbegun]; exact List.append_nil _)

/-- From its snapshot on, the flush goes on as its course says, whatever goes on beside it. -/
theorem Progress.run (h : c.Progress r b since appended begun) (hosts : b.Hosts r.id)
    (beside : ∀ s ∈ steps, s.2.IsBeside) (timely : c.IsTimely r.id b since steps) :
    ∃ last, c.Progress r (b.run steps) last (appended ++ b.appended steps)
      (begun ++ b.attempted r.id steps) := by
  induction steps generalizing b since appended begun with
  | nil => exact ⟨since, by simpa [Buffer.appended, attempted, Buffer.run] using h⟩
  | cons s steps ih =>
    obtain ⟨hnext, hlater⟩ := timely
    have hbeside := beside s List.mem_cons_self
    have hrest : ∀ s ∈ steps, s.2.IsBeside := fun s hs => beside s (List.mem_cons_of_mem _ hs)
    have hhosts := hosts.step (not_flush_of_isBeside hbeside) s.1
    rw [run_cons, Buffer.appended, attempted, ← List.append_assoc, ← List.append_assoc]
    by_cases own : s.2.task = r.id
    · obtain ⟨hstep, hnone⟩ := h.own hosts (hnext own)
      rw [if_pos own] at hlater ⊢
      rw [own, hnone, Option.toList_none, List.append_nil]
      exact ih hstep hhosts hrest hlater
    · obtain ⟨hstage, hgrows⟩ := hosts.beside own hbeside s.1
      rw [if_neg own] at hlater ⊢
      rw [List.append_nil]
      exact ih (h.beside hstage hgrows) hhosts hrest hlater

/-- A flush that is over has settled its snapshot. -/
theorem Progress.settled (h : c.Progress r b since appended begun) (rest : (b.stages r.id).IsAtRest) :
    b.stages r.id = .finished (.flushed (c.report r.limit r.events)) ∧ r.Settled c b appended ∧
      begun = r.events.take ((c.completed r.limit r.events).length + 1) := by
  cases h with
  | sending tried event remaining snapshot stage =>
    rw [stage] at rest
    exact rest.elim
  | closing remaining stage =>
    rw [stage] at rest
    exact rest.elim
  | ended stage settled hbegun => exact ⟨stage, settled, hbegun⟩

/-! ### The whole flush -/

/-- The round of a flush that takes its snapshot. -/
def roundOf (b : Buffer) (id : TaskId) (limit : Duration) (taken : Instant) : Round where
  id
  limit
  taken
  events := b.events
  delivered := b.delivered
  flushed := b.metrics.flushed.value

/-- With its snapshot the flush begins to send, or it is over if there is nothing to send. -/
theorem Progress.start (reading : b.stages id = .reading limit) (held : b.lock.isHeldBy id = true)
    {taken : Instant} (told : b.events = [] ∨ taken + limit ≤ Instant.last) :
    let later := b.step taken (.resume id)
    c.Progress (roundOf b id limit taken) later taken [] (later.stages id).sending?.toList ∧
      b.appendedBy? later id = none := by
  intro later
  have hlater : later = b.snapshot taken id limit := by simp [later, step, resume, reading, held]
  refine ⟨?_, ?_⟩
  · rw [hlater]
    unfold Buffer.snapshot
    dsimp only
    split
    · rename_i hevents
      have hempty : (roundOf b id limit taken).events = [] := hevents
      refine .ended ?_ ⟨?_, ?_, ?_⟩ ?_
      · rw [hempty]
        simp [endFlush, roundOf, report, completed]
      · rw [hempty]
        exact hevents
      · rw [hempty]
        exact (List.append_nil _).symm
      · rw [hempty]
        exact (UInt64.add_zero _).symm
      · rw [hempty]
        simp [endFlush, Stage.sending?]
    · rename_i hexpires hne
      obtain ⟨rfl, -⟩ := Instant.after?_eq_some_iff.mp hexpires
      obtain ⟨event, rest, hevents⟩ := List.exists_cons_of_ne_nil hne
      refine .sending [] event rest hevents ?_ rfl (Nat.zero_le _) ⟨?_, ?_, rfl⟩ ?_
      · simp [roundOf, hevents, delivery_start]
      · exact (List.append_nil _).symm
      · exact (List.append_nil _).symm
      · simp [Stage.sending?, hevents]
    · rename_i hexpires hne
      exact absurd (told.resolve_left hne) (Nat.not_le.mpr (Instant.after?_eq_none_iff.mp hexpires))
  · exact appendedBy?_of_event? (by rw [reading]; rfl)

/-- A flush of which the clock cannot tell when it is to be over breaks off with its snapshot. -/
theorem snapshot_breaksOff (reading : b.stages id = .reading limit) (held : b.lock.isHeldBy id = true)
    (content : b.events ≠ []) {taken : Instant} (untold : Instant.last < taken + limit) :
    let later := b.step taken (.resume id)
    later.stages id = .dropped ∧ b.Grows later [] ∧ b.appendedBy? later id = none := by
  intro later
  have hlater : later = b.snapshot taken id limit := by simp [later, step, resume, reading, held]
  have hstage : later.stages id = .dropped := by
    obtain ⟨event, rest, hevents⟩ := List.exists_cons_of_ne_nil content
    simp [hlater, Buffer.snapshot, hevents, Instant.after?_eq_none_iff.mpr untold, withStage]
  have hmove := step_move taken b (.resume id)
  refine ⟨hstage, ⟨?_, ?_, ?_⟩, appendedBy?_eq_none (.inr hstage)⟩
  · rw [hlater, snapshot_events, List.append_nil]
  · exact hmove.delivered_eq fun d h => by cases reading.symm.trans h
  · exact hmove.flushed_eq fun d h => by cases reading.symm.trans h

/-- Beside a flush that has broken off, others only append events, and it sends nothing. -/
theorem run_after_breakOff (hosts : b.Hosts id) (stage : b.stages id = .dropped)
    (beside : ∀ s ∈ steps, s.2.IsBeside) (timely : c.IsTimely id b since steps) :
    (b.run steps).stages id = .dropped ∧ b.Grows (b.run steps) (b.appended steps) ∧
      b.attempted id steps = [] := by
  induction steps generalizing b since with
  | nil => exact ⟨stage, Grows.refl b, rfl⟩
  | cons s steps ih =>
    obtain ⟨hnext, hlater⟩ := timely
    have hbeside := beside s List.mem_cons_self
    have hrest : ∀ s ∈ steps, s.2.IsBeside := fun s hs => beside s (List.mem_cons_of_mem _ hs)
    have hhosts := hosts.step (not_flush_of_isBeside hbeside) s.1
    obtain ⟨hstage, hgrows⟩ : (b.step s.1 s.2).stages id = .dropped ∧
        b.Grows (b.step s.1 s.2) (b.appendedBy? (b.step s.1 s.2) s.2.task).toList := by
      by_cases own : s.2.task = id
      · have hresume : s.2 = .resume id := by
          have hown := hnext own
          rwa [IsNext, stage] at hown
        have hsame : b.step s.1 s.2 = b := by simp [hresume, step, resume, stage]
        rw [hsame, appendedBy?_eq_none (.inl rfl)]
        exact ⟨stage, Grows.refl b⟩
      · obtain ⟨hkept, hgrows⟩ := hosts.beside own hbeside s.1
        exact ⟨hkept.trans stage, hgrows⟩
    obtain ⟨hstage', hgrows', hnone⟩ := ih hhosts hstage hrest hlater
    refine ⟨hstage', hgrows.trans hgrows', ?_⟩
    simp [attempted, hstage, hnone, Stage.sending?]

theorem hosts_of_isReachable (reachable : b.IsReachable) (alone : b.flushLock = {})
    (began : Instant) (id : TaskId) (limit : Duration) :
    (b.step began (.flush id limit)).Hosts id := by
  have orderly := reachable.isOrderly
  have queue := reachable.isQueue
  obtain ⟨settings, hasSink, hasTransport, earlier, rfl⟩ := reachable
  have hosts : ((start settings hasSink hasTransport).run earlier).Hosts id := by
    refine ⟨orderly, run_spillsWhenFull settings hasSink hasTransport earlier, queue, ?_⟩
    -- a flush under way would hold the lock that keeps flushes apart, or wait for it
    intro task hflush
    have hmem := (orderly.flushLock.tasks task).mpr hflush
    rw [alone] at hmem
    exact absurd hmem List.not_mem_nil
  refine hosts.step (fun task limit' hlabel => ?_) began
  exact (Label.flush.inj hlabel).1.symm

end Course

end ProfileGuard.Buffer
