import Mathlib.Data.List.Induction
import ProfileGuard.Audit.Scene
import ProfileGuard.Proofs.Audit.Moves
import ProfileGuard.Proofs.Audit.WireForm
import ProfileGuard.Proofs.Buffer.Contents

/-!
# Every message is an event that was produced

A payload reaches the broker on two ways, directly or by way of the buffer, perhaps in a later flush, and it
reaches overflow storage on a third.  On each of them it is the JSON form of an event that was passed to the
producer, under the topic of the producer and the user of the event.

* **`Audit.Producer.Passed`** — an event was passed to a producer along a run.
* **`Audit.Producer.job?`** — what an operation wants from the broker or from overflow storage.
* **`Audit.Producer.Holds`** — a property of every event in the hands of a producer.
* **`Audit.Producer.Holds.step`** — each step keeps it if it holds of the event that is passed.
* **`Audit.Producer.carries_passed`** — what each message and each stored event carries.
* **`Audit.Scene.sent_of_actOn?`**, **`Audit.Scene.stored_of_actOn?`** — what gets to the outlets is what a task
  wants from them.
-/

namespace ProfileGuard.Audit

namespace Producer

variable {now : Instant} {p later : Producer} {id : TaskId} {event : Event} {label : Label}
  {P : Event → Prop}

/-- An event was passed to a producer along a run, by an operation that began there. -/
def Passed (p : Producer) (steps : List (Instant × Label)) (event : Event) : Prop :=
  ∃ before now id after, steps = before ++ (now, .produce id event) :: after ∧
    (p.run before).stages id = .idle

/-- What an operation wants from the broker or from overflow storage. -/
def job? (p : Producer) (id : TaskId) : Option Outlets.Job :=
  match p.stages id with
  | .sending event _ _ => some (.send (p.message event))
  | .buffering => (p.buffer.job? id).map Prod.fst
  | _ => none

/-- The messages that the broker took, directly or from the buffer. -/
def taken (p : Producer) : List Outlets.Message :=
  p.delivered ++ p.buffer.delivered.map Buffer.Event.message

/-- A buffered event is the buffered form of an event, at whatever moment and after whatever retries. -/
def IsFormOf (p : Producer) (event : Event) (form : Buffer.Event) : Prop :=
  form.id = event.id.text ∧ form.message = p.message event

/-- A property of every event in the hands of a producer: of those that the broker took directly, has been
given, or finds in the buffer. -/
structure Holds (P : Event → Prop) (p : Producer) : Prop where
  delivered : ∀ message ∈ p.delivered, ∃ event, P event ∧ message = p.message event
  sending : ∀ id event generation expires,
    p.stages id = .sending event generation expires → P event
  buffer : p.buffer.Holds fun form => ∃ event, P event ∧ p.IsFormOf event form

/-! ### The buffer -/

theorem isFormOf_bufferedEvent (p : Producer) (now : Instant) (event : Event) :
    p.IsFormOf event (p.bufferedEvent now event) := by
  constructor
  · rw [bufferedEvent]
  · rw [bufferedEvent, Buffer.Event.message, message]

/-- The buffered form of an event does not depend on its retries. -/
theorem exists_isFormOf_retried (form : Buffer.Event) (retries : UInt32)
    (h : ∃ event, P event ∧ p.IsFormOf event form) :
    ∃ event, P event ∧ p.IsFormOf event { form with retries } := h

/-- What happens in the buffer brings no event but the one that is added. -/
theorem Holds.inBuffer (h : p.Holds P) (now : Instant) (label : Buffer.Label)
    (new : ∀ id form, label = .add id form → ∃ event, P event ∧ p.IsFormOf event form) :
    (p.buffer.step now label).Holds fun form => ∃ event, P event ∧ p.IsFormOf event form :=
  h.buffer.step exists_isFormOf_retried now new

/-! ### The parts of a step -/

/-- An operation goes to a stage where nothing is sent. -/
theorem Holds.withStage (h : p.Holds P) (stage : Stage)
    (quiet : ∀ event generation expires, stage ≠ .sending event generation expires) :
    (p.withStage id stage).Holds P where
  delivered := h.delivered
  sending other event generation expires hstage := by
    rw [withStage_stages, Tasks.set_apply] at hstage
    split at hstage
    · exact absurd hstage (quiet event generation expires)
    · exact h.sending other event generation expires hstage
  buffer := h.buffer

/-- The breaker has no events. -/
theorem Holds.withBreaker (h : p.Holds P) (breaker : Breaker) : { p with breaker }.Holds P :=
  ⟨h.delivered, h.sending, h.buffer⟩

theorem Holds.withBuffer (h : p.Holds P) {buffer : Buffer}
    (inner : buffer.Holds fun form => ∃ event, P event ∧ p.IsFormOf event form) :
    { p with buffer }.Holds P :=
  ⟨h.delivered, h.sending, inner⟩

/-- An event that has the property goes to the buffer. -/
theorem Holds.keep (h : p.Holds P) (own : P event) : (p.keep now id event).Holds P := by
  refine (h.withBuffer (h.inBuffer now _ fun other form hlabel => ?_)).withStage _ (by simp)
  injection hlabel with _ hform
  exact ⟨event, own, hform ▸ p.isFormOf_bufferedEvent now event⟩

/-- The end of a send keeps the property if what its operation goes on to does. -/
theorem Holds.conclude (h : p.Holds P) {generation : UInt64} {success : Bool}
    {goOn : Producer → Producer} (goesOn : (goOn (p.settle now generation success)).Holds P) :
    (p.conclude now id generation success goOn).Holds P := by
  rcases conclude_cases now p id generation success goOn with hcase | hcase <;> rw [hcase]
  · exact goesOn
  · exact (h.withBreaker _).withStage _ (by simp)

/-- An event that has the property is produced. -/
theorem Holds.produce (h : p.Holds P) (own : P event) : (p.produce now id event).Holds P := by
  unfold Producer.produce
  split
  · exact h.withStage _ (by simp)
  · split
    · rename_i breaker generation _
      refine ⟨h.delivered, fun other given generation expires hstage => ?_, h.buffer⟩
      rw [withStage_stages, Tasks.set_apply] at hstage
      split at hstage
      · injection hstage with hgiven
        exact hgiven ▸ own
      · exact h.sending other given generation expires hstage
    · exact (h.withBreaker _).keep own

theorem Holds.flush (h : p.Holds P) : (p.flush now id).Holds P := by
  unfold Producer.flush
  dsimp only
  split
  · exact (h.withBreaker _).withStage _ (by simp)
  · have inner := h.inBuffer now (.flush id p.settings.buffer.flushLimit) (by simp)
    exact ((h.withBreaker (p.breaker.poll now)).withBuffer inner).withStage .buffering (by simp)

/-! ### Steps and runs -/

/-- A step keeps a property of every event if it holds of the event that is passed. -/
theorem Holds.step (h : p.Holds P) (now : Instant)
    (new : ∀ id event, label = .produce id event → p.stages id = .idle → P event) :
    (p.step now label).Holds P := by
  cases label with
  | produce id event =>
    simp only [Producer.step]
    split
    · rename_i idle
      exact h.produce (new id event rfl idle)
    · exact h
  | sent id result =>
    simp only [Producer.step]
    split
    · rename_i event generation expires _ stage
      have own := h.sending id event generation expires stage
      have hsent : { p with delivered := p.delivered ++ [p.message event] }.Holds P := by
        refine ⟨fun message hmem => ?_, h.sending, h.buffer⟩
        rcases List.mem_append.mp hmem with hold | hnew
        · exact h.delivered message hold
        · exact ⟨event, own, List.mem_singleton.mp hnew⟩
      exact hsent.conclude ((hsent.withBreaker _).withStage _ (by simp))
    · rename_i event generation expires _ stage
      exact h.conclude ((h.withBreaker _).keep (h.sending id event generation expires stage))
    · exact h
  | sendExpired id =>
    simp only [Producer.step]
    split
    · rename_i event generation expires stage
      exact h.conclude ((h.withBreaker _).keep (h.sending id event generation expires stage))
    · exact h
  | flush id =>
    simp only [Producer.step]
    split
    · exact h.flush
    · exact h
  | view id =>
    simp only [Producer.step]
    split
    · exact (h.withBuffer (h.inBuffer now (.view id) (by simp))).withStage _ (by simp)
    · exact h
  | buffer label =>
    simp only [Producer.step]
    split
    · exact h
    · exact h
    · exact h
    · exact h
    · rename_i hadd _ _ _
      exact h.withBuffer (h.inBuffer now label fun id form hlabel => absurd hlabel (hadd id form))
  | close => exact ⟨h.delivered, h.sending, h.buffer⟩
  | observe => exact h.withBreaker _
  | abort id =>
    simp only [Producer.step]
    split
    · exact (h.withBreaker _).withStage _ (by simp)
    · exact h.withBuffer (h.inBuffer now (.abort id) (by simp))
    · exact h

theorem Holds.start (settings : Settings) (breaker : Breaker) (hasSink : Bool) :
    (start settings breaker hasSink).Holds P where
  delivered _ hmem := absurd hmem List.not_mem_nil
  sending _ _ _ _ hstage := by cases hstage
  buffer := Buffer.Holds.start settings.buffer hasSink true

/-- A property that follows from another holds where the other does. -/
theorem Holds.mono {Q : Event → Prop} (h : p.Holds P) (hle : ∀ event, P event → Q event) :
    p.Holds Q where
  delivered message hmem := (h.delivered message hmem).imp fun event => And.imp_left (hle event)
  sending id event generation expires hstage := hle event (h.sending id event generation expires hstage)
  buffer := h.buffer.mono fun _ => Exists.imp fun event => And.imp_left (hle event)

/-- What was passed along a run was passed along each longer run. -/
theorem Passed.mono {steps : List (Instant × Label)} (h : p.Passed steps event)
    (more : List (Instant × Label)) : p.Passed (steps ++ more) event := by
  obtain ⟨before, now, id, after, rfl, idle⟩ := h
  exact ⟨before, now, id, after ++ more, by simp, idle⟩

/-- Every event in the hands of a producer was passed to it. -/
theorem run_holds (settings : Settings) (breaker : Breaker) (hasSink : Bool)
    (steps : List (Instant × Label)) :
    let fresh := start settings breaker hasSink
    (fresh.run steps).Holds (fresh.Passed steps) := by
  intro fresh
  induction steps using List.reverseRecOn with
  | nil => exact .start settings breaker hasSink
  | append_singleton steps s ih =>
    rw [run_append]
    refine Holds.step (ih.mono fun event h => h.mono [s]) s.1 fun id event hlabel idle => ?_
    exact ⟨steps, s.1, id, [], by rw [← hlabel], idle⟩

/-! ### Messages -/

/-- A message is the wire form of an event: it has the topic of the settings and the user of the event, and
its payload is read back as the event, which verifies as before. -/
structure IsWireForm (settings : Settings) (event : Event) (message : Outlets.Message) : Prop where
  topic : message.topic = settings.topic
  key : message.key = event.userId
  payload : message.payload = event.toJson
  back : Event.read? message.payload = some event
  verifies : ∀ back secret, Event.read? message.payload = some back → event.verify secret = true →
    back.verify secret = true

theorem isWireForm_message (p : Producer) (event : Event) :
    IsWireForm p.settings event (p.message event) := by
  have payload : (p.message event).payload = event.toJson := by rw [message]
  have back : Event.read? (p.message event).payload = some event := by
    rw [payload]
    exact Event.read?_toJson event
  refine ⟨by rw [message], by rw [message], payload, back, fun given secret hread hverify => ?_⟩
  obtain rfl : event = given := Option.some.inj (back.symm.trans hread)
  exact hverify

/-- The messages that were taken, and the one that the broker is given. -/
theorem Holds.message (h : p.Holds P) {message : Outlets.Message}
    (given : message ∈ p.taken ∨ ∃ id, p.job? id = some (.send message)) :
    ∃ event, P event ∧ message = p.message event := by
  have inBuffer {form : Buffer.Event} (hform : ∃ event, P event ∧ p.IsFormOf event form) :
      ∃ event, P event ∧ form.message = p.message event := by
    obtain ⟨event, own, -, hmessage⟩ := hform
    exact ⟨event, own, hmessage⟩
  rcases given with htaken | ⟨id, hjob⟩
  · rcases List.mem_append.mp htaken with hdirect | hflushed
    · exact h.delivered message hdirect
    · obtain ⟨form, hmem, rfl⟩ := List.mem_map.mp hflushed
      exact inBuffer (h.buffer.delivered form hmem)
  · unfold job? at hjob
    split at hjob
    · rename_i event generation expires stage
      injection Option.some.inj hjob with hmessage
      exact ⟨event, h.sending id event generation expires stage, hmessage.symm⟩
    · obtain ⟨⟨job, expires⟩, hjob, rfl⟩ := Option.map_eq_some_iff.mp hjob
      obtain ⟨form, hform, rfl⟩ := h.buffer.of_send hjob
      exact inBuffer hform
    · cases hjob

/-- The events in the buffer, those that overflow storage took, and those that it is given. -/
theorem Holds.form (h : p.Holds P) {form : Buffer.Event}
    (given : form ∈ p.buffer.events ∨ form ∈ p.buffer.persisted ∨
      ∃ id forms, p.job? id = some (.store forms) ∧ form ∈ forms) :
    ∃ event, P event ∧ p.IsFormOf event form := by
  rcases given with hwaits | hpersisted | ⟨id, forms, hjob, hmem⟩
  · exact h.buffer.events form hwaits
  · exact h.buffer.persisted form hpersisted
  · unfold job? at hjob
    split at hjob
    · injection Option.some.inj hjob
    · obtain ⟨⟨job, expires⟩, hjob, rfl⟩ := Option.map_eq_some_iff.mp hjob
      exact h.buffer.of_store hjob form hmem
    · cases hjob

/-- **Every message is an event that was produced.**  However sends, flushes and the operations on the buffer
overlap, whatever the broker, the breaker and overflow storage do: every message that the broker took or is
given, directly or by a flush, and every event that waits in the buffer or that overflow storage took or is
given, carries the configured topic, the JSON form of an event that was passed to the producer before, and
that event's user as the key; in the buffer and in storage it has that event's identifier.  So the payload is
read back as that event, and verifies under each secret under which the event does. -/
theorem carries_passed (settings : Settings) (breaker : Breaker) (hasSink : Bool)
    (steps : List (Instant × Label)) :
    let fresh := start settings breaker hasSink
    let p := fresh.run steps
    (∀ message, (message ∈ p.taken ∨ ∃ id, p.job? id = some (.send message)) →
      ∃ event, fresh.Passed steps event ∧ IsWireForm settings event message) ∧
    ∀ form, (form ∈ p.buffer.events ∨ form ∈ p.buffer.persisted ∨
        ∃ id forms, p.job? id = some (.store forms) ∧ form ∈ forms) →
      ∃ event, fresh.Passed steps event ∧ form.id = event.id.text ∧
        IsWireForm settings event form.message := by
  intro fresh p
  have hholds : p.Holds (fresh.Passed steps) := run_holds settings breaker hasSink steps
  have hsettings : p.settings = settings := run_settings fresh steps
  refine ⟨fun message given => ?_, fun form given => ?_⟩
  · obtain ⟨event, passed, rfl⟩ := hholds.message given
    exact ⟨event, passed, hsettings ▸ p.isWireForm_message event⟩
  · obtain ⟨event, passed, hid, hmessage⟩ := hholds.form given
    refine ⟨event, passed, hid, ?_⟩
    rw [hmessage]
    exact hsettings ▸ p.isWireForm_message event

/-- One event is sent directly, one is spilled and one flushed. -/
theorem carries_passed_on_three_ways :
    let event (n : Nat) : Event := ⟨⟨BitVec.ofNat 128 n⟩, .clockStart, "user", "actor", .user, .access,
      .profile, none, [], "", "request", none, .success, none, ""⟩
    let settings : Settings := { buffer := { capacity := 1 } }
    let fresh := start settings (Breaker.start {} 0) true
    let steps : List (Instant × Label) :=
      [(0, .produce 0 (event 0)), (0, .produce 1 (event 1)), (0, .sent 0 (.ok ())),
        (5000000000, .sendExpired 1), (5000000000, .buffer (.resume 1)),
        (5000000001, .produce 2 (event 2)), (5000000002, .sent 2 (.error (.transport "down"))),
        (5000000002, .buffer (.resume 2)), (5000000003, .flush 3), (5000000004, .buffer (.stored 2 (.ok ()))),
        (5000000004, .buffer (.resume 3)), (5000000004, .buffer (.resume 3)),
        (5000000005, .buffer (.sent 3 (.ok ())))]
    let p := fresh.run steps
    p.taken.length = 2 ∧ p.buffer.persisted.length = 1 ∧
      (∀ message ∈ p.taken, ∃ event, fresh.Passed steps event ∧ IsWireForm settings event message) ∧
      ∀ form ∈ p.buffer.persisted, ∃ event, fresh.Passed steps event ∧ form.id = event.id.text ∧
        IsWireForm settings event form.message := by
  intro event settings fresh steps p
  obtain ⟨messages, forms⟩ := carries_passed settings (Breaker.start {} 0) true steps
  exact ⟨by decide +kernel, by decide +kernel, fun message hmem => messages message (.inl hmem),
    fun form hmem => forms form (.inr (.inl hmem))⟩

end Producer

/-! ### The outlets

Nothing gets to the transport or into the sink but what the task that acts wants from them. -/

namespace Scene

variable {α : Type} {s later : Scene α} {now : Instant} {id : TaskId}

/-- A task that acts leaves the outlets alone, or goes on there with what it wants. -/
theorem outlets_of_actOn? (h : s.actOn? now id = some later) :
    later.outlets = s.outlets ∨ ∃ job expires outcome, s.producer.job? id = some job ∧
      s.outlets.act? now id job expires = some (later.outlets, outcome) := by
  unfold actOn? at h
  split at h
  · rename_i event generation expires stage
    obtain ⟨⟨outlets, outcome⟩, hact, rfl⟩ := Option.map_eq_some_iff.mp h
    refine .inr ⟨.send (s.producer.message event), expires, outcome, ?_, ?_⟩
    · rw [Producer.job?, stage]
    · cases outcome <;> exact hact
  · rename_i stage
    obtain ⟨⟨buffer, outlets⟩, hact, rfl⟩ := Option.map_eq_some_iff.mp h
    refine (Buffer.outlets_of_actOn? hact).imp_right ?_
    rintro ⟨job, expires, outcome, hjob, hanswer⟩
    refine ⟨job, expires, outcome, ?_, hanswer⟩
    rw [Producer.job?, stage]
    exact congrArg (Option.map Prod.fst) hjob
  · cases h

/-- What the transport has sent after a task acted, it had sent before, or the task gave it. -/
theorem sent_of_actOn? (h : s.actOn? now id = some later) {message : Outlets.Message}
    (hsent : message ∈ later.outlets.transport.sent) :
    message ∈ s.outlets.transport.sent ∨ s.producer.job? id = some (.send message) := by
  rcases outlets_of_actOn? h with hsame | ⟨job, expires, outcome, hjob, hact⟩
  · exact .inl (hsame ▸ hsent)
  · refine (Outlets.sent_of_act? hact hsent).imp_right ?_
    rintro rfl
    exact hjob

/-- What the sink has stored after a task acted, it had stored before, or the task gave it. -/
theorem stored_of_actOn? (h : s.actOn? now id = some later) {form : Buffer.Event}
    (hstored : form ∈ later.outlets.stored) :
    form ∈ s.outlets.stored ∨ ∃ forms, s.producer.job? id = some (.store forms) ∧ form ∈ forms := by
  rcases outlets_of_actOn? h with hsame | ⟨job, expires, outcome, hjob, hact⟩
  · exact .inl (hsame ▸ hstored)
  · refine (Outlets.stored_of_act? hact hstored).imp_right ?_
    rintro ⟨forms, rfl, hmem⟩
    exact ⟨forms, hjob, hmem⟩

end Scene

end ProfileGuard.Audit
