import Mathlib.Data.List.Nodup
import ProfileGuard.Proofs.Buffer.Alone

/-!
# The course of the sends of a flush

A flush sends the events of its snapshot one after the other within one time for all of them.  If it is known
how long the transport takes for each event, and how it answers, it is known what the flush does: it completes
the sends of as many events as fit into its time, and stops at the first that does not.

* **`Buffer.Course`** — how long each send takes, and how it is answered.
* **`Buffer.Course.completed`** / **`Buffer.Course.prefix_completed_iff`** — the longest series of events
  whose sends take no more than the time of the flush.
* **`Buffer.Course.left`** / **`Buffer.Course.report`** — what the flush leaves, and what it reports.
* **`Buffer.Course.delivery`** / **`Buffer.Course.concluded`** — the state of the flush after some of its
  events, and at the end.
* **`Buffer.Course.result_concluded`** / **`Buffer.Course.kept_delivery`** — what it amounts to.
-/

namespace ProfileGuard.Buffer

/-- How long the transport takes for each event, and how it answers. -/
structure Course where
  latency : Event → Duration
  answer : Event → Except Failure Unit

namespace Course

variable (c : Course) {limit : Duration} {expires : Instant} {event : Event}
  {events tried rest others : List Event}

/-! ### The events whose sends complete -/

/-- The time that the sends of some events take, one after the other. -/
def total : List Event → Duration
  | [] => 0
  | event :: events => c.latency event + total events

/-- The events whose sends end within a time, one after the other, up to the first that does not. -/
def completed : Duration → List Event → List Event
  | _, [] => []
  | limit, event :: events =>
    if c.latency event ≤ limit then event :: completed (limit - c.latency event) events else []

@[simp]
theorem total_nil : c.total [] = 0 := rfl

@[simp]
theorem total_cons : c.total (event :: events) = c.latency event + c.total events := rfl

theorem total_concat : c.total (tried ++ [event]) = c.total tried + c.latency event := by
  induction tried with
  | nil => exact Nat.add_comm _ _
  | cons first tried ih => rw [List.cons_append, total_cons, total_cons, ih, Nat.add_assoc]

/-- **The longest series that fits.**  Of the series at the beginning of some events, those whose sends take
no more than the time are those within the completed events. -/
theorem prefix_completed_iff (h : tried <+: events) :
    tried <+: c.completed limit events ↔ c.total tried ≤ limit := by
  induction events generalizing limit tried with
  | nil => simp [List.prefix_nil.mp h]
  | cons event events ih =>
    cases tried with
    | nil => simp
    | cons first tried =>
      obtain ⟨rfl, hrest⟩ := List.cons_prefix_cons.mp h
      rw [completed, total_cons]
      split
      · rename_i hfits
        rw [List.cons_prefix_cons, ih hrest, and_iff_right rfl, Nat.le_sub_iff_add_le' hfits]
      · rename_i hlate
        simp only [List.prefix_nil, reduceCtorEq, false_iff]
        exact fun hle => hlate (Nat.le_trans (Nat.le_add_right _ _) hle)

theorem completed_prefix (limit : Duration) (events : List Event) :
    c.completed limit events <+: events := by
  induction events generalizing limit with
  | nil => exact List.prefix_rfl
  | cons event events ih =>
    rw [completed]
    split
    · exact List.cons_prefix_cons.mpr ⟨rfl, ih _⟩
    · exact List.nil_prefix

/-- Where all sends take no more than the time, all complete. -/
theorem completed_eq_self (fits : c.total events ≤ limit) : c.completed limit events = events :=
  (c.completed_prefix limit events).eq_of_length_le
    ((c.prefix_completed_iff List.prefix_rfl).mpr fits).length_le

/-- Where the next send takes too long, no more complete than before. -/
theorem completed_of_late (fits : c.total tried ≤ limit)
    (late : limit < c.total tried + c.latency event) :
    c.completed limit (tried ++ event :: rest) = tried := by
  have hprefix := (c.prefix_completed_iff (List.prefix_append tried (event :: rest))).mpr fits
  obtain ⟨more, hmore⟩ := hprefix
  cases more with
  | nil => simpa using hmore.symm
  | cons next more =>
    -- a longer series would begin with the late send
    have hwhole := c.completed_prefix limit (tried ++ event :: rest)
    rw [← hmore, List.prefix_append_right_inj, List.cons_prefix_cons] at hwhole
    obtain ⟨rfl, _⟩ := hwhole
    have hlonger : tried ++ [next] <+: c.completed limit (tried ++ next :: rest) := by
      rw [← hmore]
      exact ⟨more, by simp⟩
    have htotal := (c.prefix_completed_iff ⟨rest, by simp⟩).mp hlonger
    rw [total_concat] at htotal
    exact absurd htotal (Nat.not_le.mpr late)

/-! ### What a flush leaves and reports -/

/-- Whether an event is delivered when its send completes. -/
def delivers (event : Event) : Bool :=
  match c.answer event with
  | .ok _ => true
  | .error _ => false

/-- Why the delivery of an event failed when its send completes, if it did. -/
def failure? (event : Event) : Option Failure :=
  match c.answer event with
  | .ok _ => none
  | .error failure => some failure

/-- What is left of an event whose send completed: nothing if it was delivered, and otherwise the event with
one more retry. -/
def left? (event : Event) : Option Event :=
  if c.delivers event then none else some { event with retries := raise event.retries }

/-- What is left of the events of a snapshot. -/
def left (limit : Duration) (events : List Event) : List Event :=
  (c.completed limit events).filterMap c.left? ++ events.drop (c.completed limit events).length

/-- What a flush reports of its snapshot: that it was cancelled if some event did not complete, otherwise the
failures with the last cause if there are any, and in each case how many events were delivered. -/
def report (limit : Duration) (events : List Event) : Except Error Nat :=
  let completed := c.completed limit events
  let delivered := completed.filter c.delivers
  let failures := completed.filterMap c.failure?
  if completed.length < events.length then .error (.cancelled delivered.length limit)
  else match failures.getLast? with
    | some failure => .error (.partialFlush delivered.length failures.length failure)
    | none => .ok delivered.length

/-- How many events a flush reports to have delivered. -/
def reported : Except Error Nat → Nat
  | .ok count => count
  | .error error => error.flushed

theorem reported_report (limit : Duration) (events : List Event) :
    reported (c.report limit events) = ((c.completed limit events).filter c.delivers).length := by
  unfold report
  dsimp only
  split
  · rfl
  · split <;> rfl

theorem length_failures (events : List Event) :
    (events.filterMap c.failure?).length = (events.filter fun event => !c.delivers event).length := by
  rw [← List.countP_eq_length_filter, List.length_filterMap_eq_countP]
  congr 1
  funext event
  unfold failure? delivers
  cases c.answer event <;> rfl

/-! ### The state of a flush after some of its events -/

/-- The delivery of a snapshot, some of whose events were tried. -/
def delivery (limit : Duration) (expires : Instant) (tried rest : List Event) : Delivery where
  limit
  expires
  remaining := rest
  delivered := namesWith [] (tried.filter c.delivers)
  failed := namesWith [] (tried.filter fun event => !c.delivers event)
  lastError := (tried.filterMap c.failure?).getLast?

@[simp]
theorem remaining_delivery (limit : Duration) (expires : Instant) (tried rest : List Event) :
    (c.delivery limit expires tried rest).remaining = rest := rfl

theorem delivery_start (limit : Duration) (expires : Instant) (events : List Event) :
    c.delivery limit expires [] events = { limit, expires, remaining := events } := rfl

theorem namesWith_concat (names : List String) (events : List Event) (event : Event) :
    namesWith names (events ++ [event]) = (namesWith names events).insert event.id := by
  simp [namesWith]

/-- The next event is tried. -/
theorem delivery_after :
    (c.delivery limit expires tried (event :: rest)).after event rest (c.answer event) =
      c.delivery limit expires (tried ++ [event]) rest := by
  cases hanswer : c.answer event with
  | ok _ =>
    simp [delivery, Delivery.after, List.filter_append, List.filterMap_append, namesWith_concat,
      delivers, failure?, hanswer]
  | error failure =>
    simp [delivery, Delivery.after, List.filter_append, List.filterMap_append, namesWith_concat,
      delivers, failure?, hanswer]

/-- As many names as distinct events. -/
theorem length_namesWith_filter (distinct : (tried.map Event.id).Nodup) (p : Event → Bool) :
    (namesWith [] (tried.filter p)).length = (tried.filter p).length := by
  have hnodup : ((tried.filter p).map Event.id).Nodup :=
    (List.filter_sublist.map Event.id).nodup distinct
  simpa using length_namesWith [] (tried.filter p) hnodup (by simp)

/-- The delivery of a snapshot when no more sends will begin. -/
def concluded (limit : Duration) (expires : Instant) (events rest : List Event) : Delivery :=
  { c.delivery limit expires (c.completed limit events) rest with
    cancelled := decide ((c.completed limit events).length < events.length) }

/-- What the flush reports at the end. -/
theorem result_concluded (distinct : (events.map Event.id).Nodup) (expires : Instant) (rest : List Event) :
    (c.concluded limit expires events rest).result = c.report limit events := by
  have hnodup : ((c.completed limit events).map Event.id).Nodup :=
    ((c.completed_prefix limit events).sublist.map Event.id).nodup distinct
  have hdelivered := length_namesWith_filter hnodup c.delivers
  have hfailed := length_namesWith_filter hnodup fun event => !c.delivers event
  rw [← length_failures] at hfailed
  cases hlast : ((c.completed limit events).filterMap c.failure?).getLast? with
  | none =>
    simp only [Delivery.result, report, concluded, delivery, decide_eq_true_eq, hdelivered, hlast]
  | some failure =>
    simp only [Delivery.result, report, concluded, delivery, decide_eq_true_eq, hdelivered, hfailed, hlast]

/-- Of distinct events, those are named that have been singled out. -/
theorem id_mem_namesWith_filter (distinct : (events.map Event.id).Nodup) (sub : tried ⊆ events)
    (mem : event ∈ events) (p : Event → Bool) :
    event.id ∈ namesWith [] (tried.filter p) ↔ event ∈ tried ∧ p event = true := by
  rw [mem_namesWith, ← List.mem_filter]
  constructor
  · rintro (h | ⟨other, hother, hid⟩)
    · cases h
    · have hmem : other ∈ events := sub (List.mem_filter.mp hother).1
      rwa [← List.inj_on_of_nodup_map distinct hmem mem hid]
  · exact fun h => .inr ⟨event, h, rfl⟩

/-- What the flush takes out of the buffer, and what it leaves there of the events it tried and of others. -/
theorem kept_delivery (distinct : ((tried ++ others).map Event.id).Nodup) (limit : Duration)
    (expires : Instant) (rest : List Event) :
    (((tried ++ others).filter fun event =>
        !(c.delivery limit expires tried rest).delivered.contains event.id).map
      (retried (c.delivery limit expires tried rest).failed)) = tried.filterMap c.left? ++ others := by
  have named : ∀ event ∈ tried ++ others, ∀ p : Event → Bool,
      event.id ∈ namesWith [] (tried.filter p) ↔ event ∈ tried ∧ p event = true :=
    fun event hmem p => id_mem_namesWith_filter distinct (List.subset_append_left tried others) hmem p
  have notTried : ∀ event ∈ others, event ∉ tried := by
    intro event hothers htried
    rw [List.map_append, List.nodup_append] at distinct
    exact distinct.2.2 _ (List.mem_map_of_mem htried) _ (List.mem_map_of_mem hothers) rfl
  rw [List.filter_append, List.map_append]
  congr 1
  · rw [← List.filterMap_eq_map, List.filterMap_filter]
    refine List.filterMap_congr fun event hevent => ?_
    have hmem : event ∈ tried ++ others := List.mem_append_left _ hevent
    have hdelivered := named event hmem c.delivers
    have hfailed := named event hmem fun event => !c.delivers event
    cases hdelivers : c.delivers event with
    | true => simp [delivery, left?, hdelivered, hevent, hdelivers]
    | false => simp [delivery, left?, retried, hdelivered, hfailed, hevent, hdelivers]
  · have kept : others.filter (fun event =>
        !(c.delivery limit expires tried rest).delivered.contains event.id) = others := by
      refine List.filter_eq_self.mpr fun event hevent => ?_
      have hmem : event ∈ tried ++ others := List.mem_append_right _ hevent
      simp [delivery, named event hmem, notTried event hevent]
    rw [kept]
    refine (List.map_congr_left fun event hevent => ?_).trans (List.map_id others)
    have hmem : event ∈ tried ++ others := List.mem_append_right _ hevent
    simp [delivery, retried, named event hmem, notTried event hevent]

end Course

end ProfileGuard.Buffer
