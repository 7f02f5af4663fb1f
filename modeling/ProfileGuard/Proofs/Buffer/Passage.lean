import ProfileGuard.Proofs.Buffer.Custody

/-!
# The passage of an event through a buffer

Where one event can be: an add is about to get it in, it waits in the buffer, or a flush under way carries
it.  It gets into the buffer from its add, and into the snapshots of flushes from the buffer only.  So an
event that is added once and has left the buffer does not come back, and no later flush carries it.

* **`Buffer.Waits`** / **`Buffer.IsAdding`** / **`Buffer.Carries`** — where an event can be.
* **`Buffer.Move.waits`** / **`Buffer.Move.carries`** / **`Buffer.step_isAdding`** — how it gets there.
* **`Buffer.IsRid.run`** — an event that is gone stays gone.
* **`Buffer.IsRid.run_isOnce`** — the invariant of an event that is added once.
-/

namespace ProfileGuard.Buffer

variable {now : Instant} {b later : Buffer} {id task flush : TaskId} {name : String} {label : Label}

/-! ### Where an event can be -/

/-- An event of an identifier waits in the buffer. -/
def Waits (b : Buffer) (name : String) : Prop := ∃ event ∈ b.events, event.id = name

theorem any_id_iff : b.events.any (·.id == name) = true ↔ b.Waits name := by simp [Waits]

/-- The identifiers of what a flush has delivered and of what it may still deliver. -/
def Delivery.names (d : Delivery) : List String := d.delivered ++ d.remaining.map Event.id

/-- A flush under way has delivered an event or may still deliver it. -/
def Carries (b : Buffer) (flush : TaskId) (name : String) : Prop :=
  ∃ d, (b.stages flush).delivery? = some d ∧ name ∈ d.names

/-- A flush under way has delivered an event. -/
def HasSent (b : Buffer) (flush : TaskId) (name : String) : Prop :=
  ∃ d, (b.stages flush).delivery? = some d ∧ name ∈ d.delivered

/-- The event that an add has not yet got into the buffer. -/
def Stage.event? : Stage → Option Event
  | adding event | spilling event _ => some event
  | _ => none

/-- An add under way is about an event. -/
def IsAdding (b : Buffer) (task : TaskId) (name : String) : Prop :=
  ∃ event, (b.stages task).event? = some event ∧ event.id = name

/-- An event waits in the buffer, or a flush under way carries it. -/
def Knows (b : Buffer) (name : String) : Prop := b.Waits name ∨ ∃ flush, b.Carries flush name

/-- An event neither waits in the buffer nor is about to get in. -/
def IsRid (b : Buffer) (name : String) : Prop := ¬ b.Waits name ∧ ∀ task, ¬ b.IsAdding task name

/-- The identifier of the event that a label wants to add. -/
def Label.added? : Label → Option String
  | add _ event => some event.id
  | _ => none

/-- The identifiers of the events that a run wants to add. -/
def addedNames (steps : List (Instant × Label)) : List String := steps.filterMap fun s => s.2.added?

/-! ### One step -/

/-- The event of an add under way was its event before, or the add begins. -/
theorem Move.event? (move : Move now b id later) {event : Event}
    (h : (later.stages task).event? = some event) :
    (b.stages task).event? = some event ∨ (task = id ∧ b.stages id = .idle) := by
  by_cases htask : task = id
  · subst htask
    have goes := move.goes
    generalize hstage : b.stages task = stage at goes ⊢
    generalize later.stages task = next at goes h
    cases goes with
    | stay => exact .inl h
    | add => exact .inr ⟨rfl, rfl⟩
    | spill given => exact .inl h
    | tried d sent rest result remaining _ own => rcases own with rfl | rfl <;> cases h
    | _ => cases h
  · rw [move.stages_other htask] at h
    exact .inl h

/-- An add under way was under way before, or it begins. -/
theorem Move.isAdding (move : Move now b id later) (h : later.IsAdding task name) :
    b.IsAdding task name ∨ (task = id ∧ b.stages id = .idle) := by
  obtain ⟨event, hevent, hname⟩ := h
  exact (move.event? hevent).imp_left fun hold => ⟨event, hold, hname⟩

/-- An operation begins at the stage that it asks for, or is over at once. -/
theorem begin_stage (stage : Stage) (idle : b.stages id = .idle) :
    (b.begin id stage).stages id = stage ∨
      ∃ reply, (b.begin id stage).stages id = .finished reply := by
  unfold begin
  split
  · split
    · exact .inl (Tasks.set_self _ _ _)
    · exact .inr ⟨_, Tasks.set_self _ _ _⟩
  · exact .inl (Tasks.set_self _ _ _)
  · rename_i active _
    exact (active idle).elim

/-- Where nothing is under way, only a label that wants to add an event begins to do so. -/
theorem label_of_idle {event : Event} (idle : b.stages label.task = .idle)
    (h : ((b.step now label).stages label.task).event? = some event) :
    ∃ id, label = .add id event := by
  have begun : ∀ stage, ((b.begin label.task stage).stages label.task).event? = some event →
      stage.event? = some event := by
    intro stage hstage
    rcases begin_stage stage idle with hbegun | ⟨reply, hbegun⟩
    · rwa [hbegun] at hstage
    · rw [hbegun] at hstage
      cases hstage
  cases label with
  | add id given =>
    obtain rfl := Option.some.inj (begun (.adding given) h)
    exact ⟨id, rfl⟩
  | flush id limit => cases begun (.flushing limit) h
  | view id => cases begun .viewing h
  | resume id | stored id result | storeExpired id | sent id result | sendExpired id | abort id =>
    change b.stages id = .idle at idle
    change ((b.step now _).stages id).event? = some event at h
    simp [step, resume, abort, idle, Stage.event?] at h

/-- An add under way was under way before, or its label begins it. -/
theorem step_isAdding (h : (b.step now label).IsAdding task name) :
    b.IsAdding task name ∨ (task = label.task ∧ label.added? = some name) := by
  rcases (step_move now b label).isAdding h with hold | ⟨rfl, idle⟩
  · exact .inl hold
  · obtain ⟨event, hevent, rfl⟩ := h
    obtain ⟨_, hlabel⟩ := label_of_idle idle hevent
    exact .inr ⟨rfl, by rw [hlabel]; rfl⟩

theorem waits_appendOrReject {given : Event} (h : (b.appendOrReject id given).Waits name) :
    b.Waits name ∨ given.id = name := by
  obtain ⟨event, hevent, hname⟩ := h
  rcases appendOrReject_cases b id given with hcase | hcase
  · rw [hcase] at hevent
    rcases List.mem_append.mp hevent with hold | hnew
    · exact .inl ⟨event, hold, hname⟩
    · rw [List.mem_singleton.mp hnew] at hname
      exact .inr hname
  · rw [hcase] at hevent
    exact .inl ⟨event, hevent, hname⟩

theorem not_isAdding_appendOrReject (given : Event) (other : String) :
    ¬ (b.appendOrReject id given).IsAdding id other := by
  rintro ⟨event, hevent, _⟩
  obtain ⟨_, hstages⟩ := appendOrReject_stage b id given
  rw [hstages, Tasks.set_self] at hevent
  cases hevent

/-- An event gets into the buffer from its add, which is over then. -/
theorem Move.waits (move : Move now b id later) (h : later.Waits name) :
    b.Waits name ∨ (b.IsAdding id name ∧ ∀ other, ¬ later.IsAdding id other) := by
  cases move with
  | put given stage | notStored given _ stage =>
    exact (waits_appendOrReject h).imp_right fun hname =>
      ⟨⟨given, by rw [stage]; rfl, hname⟩, not_isAdding_appendOrReject given⟩
  | stored given _ stage =>
    rcases waits_appendOrReject h with ⟨_, hevent, _⟩ | hname
    · cases hevent
    · exact .inr ⟨⟨given, by rw [stage]; rfl, hname⟩, not_isAdding_appendOrReject given⟩
  | close d stage held =>
    obtain ⟨event, hevent, hname⟩ := h
    rw [close_events] at hevent
    obtain ⟨old, hold, rfl⟩ := List.mem_map.mp hevent
    exact .inl ⟨old, (List.mem_filter.mp hold).1, by rw [← hname, id_retried]⟩
  | _ => exact .inl (by simpa [Waits] using h)

theorem names_after {d : Delivery} {event : Event} {rest : List Event}
    (remaining : d.remaining = event :: rest) {result : Except Failure Unit}
    (h : name ∈ (d.after event rest result).names) : name ∈ d.names := by
  rw [Delivery.names, remaining]
  cases result with
  | ok _ =>
    rcases List.mem_append.mp h with hdelivered | hrest
    · rcases List.mem_insert_iff.mp hdelivered with rfl | hold
      · simp
      · simp [hold]
    · exact List.mem_append_right _ (List.mem_cons_of_mem _ hrest)
  | error _ =>
    rcases List.mem_append.mp h with hold | hrest
    · exact List.mem_append_left _ hold
    · exact List.mem_append_right _ (List.mem_cons_of_mem _ hrest)

/-- A flush carries what it carried before, or takes a snapshot. -/
theorem Move.carries (move : Move now b id later) (h : later.Carries flush name) :
    b.Carries flush name ∨ (b.Waits name ∧ ∃ limit, flush = id ∧ b.stages id = .reading limit) := by
  obtain ⟨d, hd, hname⟩ := h
  by_cases hflush : flush = id
  · subst hflush
    have goes := move.goes
    generalize hstage : b.stages flush = stage at goes ⊢
    generalize later.stages flush = next at goes hd
    cases goes with
    | stay => exact .inl ⟨d, by rw [hstage]; exact hd, hname⟩
    | snapshot limit d' hdelivered hremaining =>
      obtain rfl := Option.some.inj hd
      refine .inr ⟨?_, limit, rfl, rfl⟩
      rw [Delivery.names, hdelivered, hremaining, List.nil_append] at hname
      exact List.mem_map.mp hname
    | tried d' event rest result remaining _ own =>
      have hd : d'.after event rest result = d := by
        rcases own with rfl | rfl <;> exact Option.some.inj hd
      exact .inl ⟨d', by rw [hstage]; rfl, names_after remaining (hd ▸ hname)⟩
    | late d' =>
      obtain rfl := Option.some.inj hd
      exact .inl ⟨d', by rw [hstage]; rfl, hname⟩
    | _ => cases hd
  · rw [move.stages_other hflush] at hd
    exact .inl ⟨d, hd, hname⟩

theorem Move.knows (move : Move now b id later) (h : later.Knows name) :
    b.Knows name ∨ (b.IsAdding id name ∧ ∀ other, ¬ later.IsAdding id other) := by
  rcases h with hwaits | ⟨flush, hcarries⟩
  · exact (move.waits hwaits).imp_left .inl
  · rcases move.carries hcarries with hold | ⟨hwaits, _⟩
    · exact .inl (.inr ⟨flush, hold⟩)
    · exact .inl (.inl hwaits)

/-! ### An event that is gone -/

/-- An event that is gone comes back by a label that adds it only; no flush takes it into a snapshot. -/
theorem IsRid.step (rid : b.IsRid name) (other : label.added? ≠ some name) (now : Instant) :
    (b.step now label).IsRid name ∧
      ∀ flush, (b.step now label).Carries flush name → b.Carries flush name := by
  have move := step_move now b label
  refine ⟨⟨fun hwaits => ?_, fun task hadding => ?_⟩, fun flush hcarries => ?_⟩
  · rcases move.waits hwaits with hold | ⟨hadding, _⟩
    · exact rid.1 hold
    · exact rid.2 _ hadding
  · rcases step_isAdding hadding with hold | ⟨_, hadded⟩
    · exact rid.2 task hold
    · exact other hadded
  · rcases move.carries hcarries with hold | ⟨hwaits, _⟩
    · exact hold
    · exact (rid.1 hwaits).elim

theorem addedNames_cons (s : Instant × Label) (steps : List (Instant × Label)) :
    addedNames (s :: steps) = s.2.added?.toList ++ addedNames steps := by
  cases hadded : s.2.added? <;> simp [addedNames, hadded]

theorem addedNames_append (before after : List (Instant × Label)) :
    addedNames (before ++ after) = addedNames before ++ addedNames after := List.filterMap_append

theorem not_mem_addedNames_cons {s : Instant × Label} {steps : List (Instant × Label)} :
    name ∉ addedNames (s :: steps) ↔ s.2.added? ≠ some name ∧ name ∉ addedNames steps := by
  rw [addedNames_cons, List.mem_append, Option.mem_toList, not_or]

theorem IsRid.run (rid : b.IsRid name) {steps : List (Instant × Label)}
    (others : name ∉ addedNames steps) :
    (b.run steps).IsRid name ∧ ∀ flush, (b.run steps).Carries flush name → b.Carries flush name := by
  induction steps generalizing b with
  | nil => exact ⟨rid, fun _ h => h⟩
  | cons s steps ih =>
    rw [not_mem_addedNames_cons] at others
    obtain ⟨hrid, hcarries⟩ := rid.step others.1 s.1
    obtain ⟨hrun, hrest⟩ := ih hrid others.2
    exact ⟨hrun, fun flush h => hcarries flush (hrest flush h)⟩

/-! ### An event that is added once -/

/-- One add at most is about an event, and none once the event has got in. -/
structure IsOnce (b : Buffer) (name : String) : Prop where
  single : ∀ {task other}, b.IsAdding task name → b.IsAdding other name → task = other
  known : b.Knows name → ∀ task, ¬ b.IsAdding task name

theorem IsOnce.step (once : b.IsOnce name) (other : label.added? ≠ some name) (now : Instant) :
    (b.step now label).IsOnce name := by
  have before : ∀ {task}, (b.step now label).IsAdding task name → b.IsAdding task name :=
    fun h => (step_isAdding h).resolve_right fun hnew => other hnew.2
  refine ⟨fun h h' => once.single (before h) (before h'), fun hknows task hadding => ?_⟩
  rcases (step_move now b label).knows hknows with hold | ⟨hown, hover⟩
  · exact once.known hold task (before hadding)
  · obtain rfl := once.single (before hadding) hown
    exact hover name hadding

theorem IsOnce.run (once : b.IsOnce name) {steps : List (Instant × Label)}
    (others : name ∉ addedNames steps) : (b.run steps).IsOnce name := by
  induction steps generalizing b with
  | nil => exact once
  | cons s steps ih =>
    rw [not_mem_addedNames_cons] at others
    exact ih (once.step others.1 s.1) others.2

/-- An event that nobody knows is added for the first time. -/
theorem IsRid.step_isOnce (rid : b.IsRid name) (none : ∀ flush, ¬ b.Carries flush name)
    (now : Instant) (label : Label) : (b.step now label).IsOnce name := by
  have own : ∀ {task}, (b.step now label).IsAdding task name → task = label.task :=
    fun {task} h => ((step_isAdding h).resolve_left (rid.2 task)).1
  refine ⟨fun h h' => (own h).trans (own h').symm, fun hknows => ?_⟩
  rcases (step_move now b label).knows hknows with (hwaits | ⟨flush, hcarries⟩) | ⟨hadding, _⟩
  · exact (rid.1 hwaits).elim
  · exact (none flush hcarries).elim
  · exact (rid.2 _ hadding).elim

/-- After a run that adds no event twice, whatever it knows was added and will not be added again. -/
theorem IsRid.run_isOnce (rid : b.IsRid name) (none : ∀ flush, ¬ b.Carries flush name)
    {steps : List (Instant × Label)} (own : (addedNames steps).Nodup) :
    (b.run steps).IsOnce name := by
  induction steps generalizing b with
  | nil => exact ⟨fun h => (rid.2 _ h).elim, fun _ => rid.2⟩
  | cons s steps ih =>
    rw [addedNames_cons, List.nodup_append] at own
    by_cases hadded : s.2.added? = some name
    · have hrest : name ∉ addedNames steps := fun hmem => own.2.2 name (by simp [hadded]) name hmem rfl
      exact (rid.step_isOnce none s.1 s.2).run hrest
    · obtain ⟨hrid, hcarries⟩ := rid.step hadded s.1
      exact ih hrid (fun flush h => none flush (hcarries flush h)) own.2.1

theorem IsRid.not_added_again (rid : b.IsRid name) (none : ∀ flush, ¬ b.Carries flush name)
    {before after : List (Instant × Label)} (own : (addedNames (before ++ after)).Nodup)
    (knows : (b.run before).Knows name) : name ∉ addedNames after := by
  intro hafter
  rw [addedNames_append] at own
  have hbefore : name ∉ addedNames before := fun hmem =>
    (List.nodup_append.mp own).2.2 name hmem name hafter rfl
  obtain ⟨hrid, hcarries⟩ := rid.run hbefore
  rcases knows with hwaits | ⟨flush, h⟩
  · exact hrid.1 hwaits
  · exact none flush (hcarries flush h)

theorem start_isRid (settings : Settings) (hasSink hasTransport : Bool) (name : String) :
    (start settings hasSink hasTransport).IsRid name := by
  refine ⟨?_, ?_⟩
  · rintro ⟨event, hevent, _⟩
    cases hevent
  · rintro task ⟨event, hevent, _⟩
    cases hevent

theorem start_not_carries (settings : Settings) (hasSink hasTransport : Bool) (flush : TaskId)
    (name : String) : ¬ (start settings hasSink hasTransport).Carries flush name := by
  rintro ⟨d, hd, _⟩
  cases hd

end ProfileGuard.Buffer
