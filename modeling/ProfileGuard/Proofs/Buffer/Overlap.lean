import ProfileGuard.Proofs.Buffer.Passage

/-!
# Events that leave a buffer in both ways

A flush works on a snapshot while the buffer goes on, so an event can be delivered and handed over to
overflow storage too.  That takes an overlap: what overflow storage takes is gone from the buffer, so only a
flush that carries it already can deliver it later; and what a flush has delivered it takes out of the
buffer when it ends, so overflow storage can only take it before.

* **`Buffer.Delivers`** / **`Buffer.HandsOver`** — the steps by which an event leaves.
* **`Buffer.HandsOver.isRid`** / **`Buffer.HasSent.run`** — what follows each of them.
* **`Buffer.handedOver_while_carried`** — when an event can leave in both ways.
* **`Buffer.handed_over_and_delivered`** — an event that does.
-/

namespace ProfileGuard.Buffer

variable {now : Instant} {b : Buffer} {id flush : TaskId} {name : String} {label : Label}

/-! ### The two ways out -/

/-- A step by which a flush delivers an event. -/
def Delivers (b : Buffer) (label : Label) (flush : TaskId) (name : String) : Prop :=
  label = .sent flush (.ok ()) ∧ ∃ d event rest,
    b.stages flush = .sending d ∧ d.remaining = event :: rest ∧ event.id = name

/-- A step by which overflow storage takes the content of the buffer, an event with it. -/
def HandsOver (b : Buffer) (label : Label) (name : String) : Prop :=
  (∃ task event expires, label = .stored task (.ok ()) ∧ b.stages task = .spilling event expires) ∧
    b.Waits name

/-! ### What a step out leaves behind -/

theorem HandsOver.step_eq (h : b.HandsOver label name) (now : Instant) :
    ∃ task event expires, b.stages task = .spilling event expires ∧
      b.step now label = b.spilled.appendOrReject task event := by
  obtain ⟨⟨task, event, expires, rfl, stage⟩, _⟩ := h
  exact ⟨task, event, expires, stage, by simp only [step, stage]⟩

/-- What overflow storage takes is gone, but for the flushes that carry it already. -/
theorem HandsOver.isRid (h : b.HandsOver label name) (once : b.IsOnce name) (now : Instant) :
    (b.step now label).IsRid name ∧
      ∀ flush, (b.step now label).Carries flush name → b.Carries flush name := by
  have known := once.known (.inl h.2)
  obtain ⟨task, event, expires, stage, hstep⟩ := h.step_eq now
  have move : Move now b task (b.step now label) := by
    rw [hstep]
    exact .stored event expires stage
  refine ⟨⟨fun hwaits => ?_, fun other hadding => ?_⟩, fun flush hcarries => ?_⟩
  · rw [hstep] at hwaits
    rcases waits_appendOrReject hwaits with ⟨_, hevent, _⟩ | hname
    · cases hevent
    · exact known task ⟨event, by rw [stage]; rfl, hname⟩
  · rcases move.isAdding hadding with hold | ⟨_, idle⟩
    · exact known other hold
    · rw [stage] at idle
      cases idle
  · rcases move.carries hcarries with hold | ⟨_, _, _, reading⟩
    · exact hold
    · rw [stage] at reading
      cases reading

theorem HasSent.carries (h : b.HasSent flush name) : b.Carries flush name := by
  obtain ⟨d, hd, hname⟩ := h
  exact ⟨d, hd, List.mem_append_left _ hname⟩

theorem Delivers.carries (h : b.Delivers label flush name) : b.Carries flush name := by
  obtain ⟨_, d, event, rest, stage, remaining, hname⟩ := h
  exact ⟨d, by rw [stage]; rfl, by simp [Delivery.names, remaining, hname]⟩

theorem hasSent_goOn {d : Delivery} (hname : name ∈ d.delivered) : (b.goOn id d).HasSent id name := by
  obtain ⟨own, hown, hstages⟩ := goOn_stage b id d
  refine ⟨d, ?_, hname⟩
  rw [hstages, Tasks.set_self]
  rcases hown with rfl | rfl <;> rfl

theorem Delivers.hasSent (h : b.Delivers label flush name) (now : Instant) :
    (b.step now label).HasSent flush name := by
  obtain ⟨rfl, d, event, rest, stage, remaining, rfl⟩ := h
  simp only [step, stage, remaining]
  exact hasSent_goOn List.mem_insert_self

theorem begin_of_active {stage : Stage} (active : b.stages id ≠ .idle) : b.begin id stage = b := by
  unfold begin
  split
  · exact absurd (by assumption) active
  · exact absurd (by assumption) active
  · rfl

/-- A flush that sends goes on to send or to close, and still names what it has delivered. -/
theorem step_sending {d : Delivery} (stage : b.stages label.task = .sending d)
    (unaborted : ∀ task, label ≠ .abort task) (hname : name ∈ d.delivered) (now : Instant) :
    (b.step now label).HasSent label.task name := by
  have same : b.step now label = b → (b.step now label).HasSent label.task name := by
    intro heq
    rw [heq]
    exact ⟨d, by rw [stage]; rfl, hname⟩
  cases label with
  | abort id => exact absurd rfl (unaborted id)
  | add id event | flush id limit | view id =>
    change b.stages id = .sending d at stage
    exact same (begin_of_active (by rw [stage]; simp))
  | resume id | stored id result | storeExpired id =>
    change b.stages id = .sending d at stage
    exact same (by simp [step, resume, stage])
  | sendExpired id =>
    change b.stages id = .sending d at stage
    refine ⟨{ d with cancelled := true }, ?_, hname⟩
    simp [step, stage, Label.task, Stage.delivery?]
  | sent id result =>
    change b.stages id = .sending d at stage
    cases hremaining : d.remaining with
    | nil => exact same (by simp [step, stage, hremaining])
    | cons event rest =>
      simp only [step, stage, hremaining]
      cases result with
      | ok _ => exact hasSent_goOn (List.mem_insert_of_mem hname)
      | error e => exact hasSent_goOn hname

/-- A flush that closes takes what it has delivered out of the buffer, or waits to do so. -/
theorem step_closing {d : Delivery} (stage : b.stages label.task = .closing d)
    (unaborted : ∀ task, label ≠ .abort task) (hname : name ∈ d.delivered) (now : Instant) :
    (b.step now label).HasSent label.task name ∨ ¬ (b.step now label).Waits name := by
  have same : b.step now label = b → (b.step now label).HasSent label.task name := by
    intro heq
    rw [heq]
    exact ⟨d, by rw [stage]; rfl, hname⟩
  cases label with
  | abort id => exact absurd rfl (unaborted id)
  | add id event | flush id limit | view id =>
    change b.stages id = .closing d at stage
    exact .inl (same (begin_of_active (by rw [stage]; simp)))
  | stored id result | storeExpired id | sent id result | sendExpired id =>
    change b.stages id = .closing d at stage
    exact .inl (same (by simp [step, stage]))
  | resume id =>
    change b.stages id = .closing d at stage
    by_cases held : b.lock.isHeldBy id
    · have hclose : b.step now (.resume id) = b.close id d := by simp [step, resume, stage, held]
      rw [hclose]
      right
      rintro ⟨event, hevent, rfl⟩
      rw [close_events] at hevent
      obtain ⟨old, hold, rfl⟩ := List.mem_map.mp hevent
      rw [id_retried] at hname
      simpa [hname] using (List.mem_filter.mp hold).2
    · exact .inl (same (by simp [step, resume, stage, held]))

/-- What a flush has delivered it names until it takes it out of the buffer. -/
theorem HasSent.step (h : b.HasSent flush name) (unaborted : ∀ task, label ≠ .abort task)
    (now : Instant) :
    (b.step now label).HasSent flush name ∨ ¬ (b.step now label).Waits name := by
  obtain ⟨d, hd, hname⟩ := h
  by_cases hflush : flush = label.task
  · subst hflush
    cases hstage : b.stages label.task with
    | sending d' =>
      rw [hstage] at hd
      obtain rfl := Option.some.inj hd
      exact .inl (step_sending hstage unaborted hname now)
    | closing d' =>
      rw [hstage] at hd
      obtain rfl := Option.some.inj hd
      exact step_closing hstage unaborted hname now
    | _ =>
      rw [hstage] at hd
      cases hd
  · refine .inl ⟨d, ?_, hname⟩
    rw [(step_move now b label).stages_other hflush]
    exact hd

/-- As long as no flush is aborted: an event that a flush has delivered is named by it, or is gone. -/
theorem HasSent.run (h : b.HasSent flush name) (once : b.IsOnce name)
    {steps : List (Instant × Label)} (others : name ∉ addedNames steps)
    (unaborted : ∀ s ∈ steps, ∀ task, s.2 ≠ .abort task) :
    (b.run steps).HasSent flush name ∨ (b.run steps).IsRid name := by
  induction steps generalizing b with
  | nil => exact .inl h
  | cons s steps ih =>
    rw [not_mem_addedNames_cons] at others
    have once' := once.step others.1 s.1
    rcases h.step (unaborted s (by simp)) s.1 with hsent | hgone
    · exact ih hsent once' others.2 fun s' hs' => unaborted s' (by simp [hs'])
    · have rid : (b.step s.1 s.2).IsRid name := by
        refine ⟨hgone, fun task hadding => ?_⟩
        rcases step_isAdding hadding with hold | ⟨_, hnew⟩
        · exact once.known (.inr ⟨flush, h.carries⟩) task hold
        · exact others.1 hnew
      exact .inr (rid.run others.2).1

/-! ### What a run has delivered and handed over -/

theorem begin_histories (stage : Stage) :
    (b.begin id stage).delivered = b.delivered ∧ (b.begin id stage).persisted = b.persisted := by
  unfold begin
  split
  · split <;> exact ⟨rfl, rfl⟩
  · exact ⟨rfl, rfl⟩
  · exact ⟨rfl, rfl⟩

theorem resume_histories (now : Instant) :
    (b.resume now id).delivered = b.delivered ∧ (b.resume now id).persisted = b.persisted := by
  unfold resume place
  split <;> (repeat' split) <;> simp

/-- Deliveries are added to by answers of the transport only. -/
theorem step_delivered (noSend : ∀ task, label ≠ .sent task (.ok ())) (now : Instant) :
    (b.step now label).delivered = b.delivered := by
  cases label with
  | add id event | flush id limit | view id => exact (begin_histories _).1
  | resume id => exact (resume_histories now).1
  | abort id => exact abort_delivered b id
  | stored id result | storeExpired id | sendExpired id =>
    simp only [step]
    split <;> simp
  | sent id result =>
    simp only [step]
    split
    · split
      · exact absurd rfl (noSend id)
      · simp
      · rfl
    · rfl

/-- Overflow storage is added to by its own answers only. -/
theorem step_persisted (noStore : ∀ task, label ≠ .stored task (.ok ())) (now : Instant) :
    (b.step now label).persisted = b.persisted := by
  cases label with
  | add id event | flush id limit | view id => exact (begin_histories _).2
  | resume id => exact (resume_histories now).2
  | abort id => exact abort_persisted b id
  | storeExpired id | sendExpired id =>
    simp only [step]
    split <;> simp
  | sent id result =>
    simp only [step]
    split
    · split <;> simp
    · rfl
  | stored id result =>
    simp only [step]
    split
    · exact absurd rfl (noStore id)
    · simp
    · rfl

theorem mem_step_delivered (b : Buffer) (s : Instant × Label) :
    (∃ event ∈ (b.step s.1 s.2).delivered, event.id = name) ↔
      (∃ event ∈ b.delivered, event.id = name) ∨ ∃ flush, b.Delivers s.2 flush name := by
  obtain ⟨now, label⟩ := s
  by_cases hsend : ∃ flush, label = .sent flush (.ok ())
  · obtain ⟨flush, rfl⟩ := hsend
    cases hstage : b.stages flush with
    | sending d =>
      cases hremaining : d.remaining with
      | nil => simp [step, Delivers, hstage, hremaining]
      | cons event rest => simp [step, Delivers, hstage, hremaining, or_and_right, exists_or]
    | _ => simp [step, Delivers, hstage]
  · rw [step_delivered fun task h => hsend ⟨task, h⟩]
    refine (or_iff_left ?_).symm
    rintro ⟨flush, h, _⟩
    exact hsend ⟨flush, h⟩

theorem mem_step_persisted (b : Buffer) (s : Instant × Label) :
    (∃ event ∈ (b.step s.1 s.2).persisted, event.id = name) ↔
      (∃ event ∈ b.persisted, event.id = name) ∨ b.HandsOver s.2 name := by
  obtain ⟨now, label⟩ := s
  by_cases hstore : ∃ task, label = .stored task (.ok ())
  · obtain ⟨task, rfl⟩ := hstore
    cases hstage : b.stages task with
    | spilling event expires =>
      simp [step, HandsOver, Waits, hstage, or_and_right, exists_or]
    | _ => simp [step, HandsOver, hstage]
  · rw [step_persisted fun task h => hstore ⟨task, h⟩]
    refine (or_iff_left ?_).symm
    rintro ⟨⟨task, _, _, h, _⟩, _⟩
    exact hstore ⟨task, h⟩

/-- What holds after a run, if each step makes it hold under one condition only and nothing undoes it. -/
theorem run_iff_exists {P : Buffer → Prop} {Q : Buffer → Instant × Label → Prop}
    (step : ∀ b s, P (b.step s.1 s.2) ↔ P b ∨ Q b s) (b : Buffer) (steps : List (Instant × Label)) :
    P (b.run steps) ↔ P b ∨ ∃ before s, before ++ [s] <+: steps ∧ Q (b.run before) s := by
  induction steps generalizing b with
  | nil => simp [run]
  | cons s steps ih =>
    rw [run_cons, ih, step, or_assoc]
    refine or_congr_right ⟨?_, ?_⟩
    · rintro (hfirst | ⟨before, s', hprefix, hlater⟩)
      · exact ⟨[], s, by simp, hfirst⟩
      · exact ⟨s :: before, s', by simpa using hprefix, hlater⟩
    · rintro ⟨before, s', hprefix, h⟩
      cases before with
      | nil =>
        obtain rfl := (List.cons_prefix_cons.mp hprefix).1
        exact .inl h
      | cons s'' before =>
        obtain ⟨rfl, hrest⟩ := List.cons_prefix_cons.mp hprefix
        exact .inr ⟨before, s', hrest, h⟩

/-! ### Both ways -/

theorem run_concat (b : Buffer) (steps : List (Instant × Label)) (s : Instant × Label) :
    b.run (steps ++ [s]) = (b.run steps).step s.1 s.2 := run_append b steps [s]

section Both

/-- Two steps of a run are one, or one of them comes first. -/
theorem prefix_cases {α : Type} {before before' steps : List α} {s s' : α}
    (hs : before ++ [s] <+: steps) (hs' : before' ++ [s'] <+: steps) :
    s = s' ∨ before ++ [s] <+: before' ∨ before' ++ [s'] <+: before := by
  rcases List.prefix_or_prefix_of_prefix hs hs' with hle | hle
  · rcases List.prefix_concat_iff.mp hle with hsame | hfirst
    · exact .inl (by simpa using (List.append_inj' hsame rfl).2)
    · exact .inr (.inl hfirst)
  · rcases List.prefix_concat_iff.mp hle with hsame | hfirst
    · exact .inl (by simpa using (List.append_inj' hsame rfl).2.symm)
    · exact .inr (.inr hfirst)

variable {before mid : List (Instant × Label)} {s s' : Instant × Label}

/-- What a flush delivers after overflow storage took it, the flush carried at that time. -/
theorem carried_of_delivers_after (handed : b.HandsOver s.2 name) (once : b.IsOnce name)
    (others : name ∉ addedNames mid) (delivers : ((b.step s.1 s.2).run mid).Delivers s'.2 flush name) :
    b.Carries flush name := by
  obtain ⟨rid, hcarries⟩ := handed.isRid once s.1
  exact hcarries flush ((rid.run others).2 flush delivers.carries)

/-- What overflow storage takes after a flush delivered it, the flush still carries. -/
theorem carried_of_delivers_before (delivers : b.Delivers s'.2 flush name)
    (once : (b.step s'.1 s'.2).IsOnce name) (others : name ∉ addedNames mid)
    (unaborted : ∀ s ∈ mid, ∀ task, s.2 ≠ .abort task)
    (handed : ((b.step s'.1 s'.2).run mid).HandsOver s.2 name) :
    ((b.step s'.1 s'.2).run mid).Carries flush name := by
  rcases (delivers.hasSent s'.1).run once others unaborted with hsent | hrid
  · exact hsent.carries
  · exact (hrid.1 handed.2).elim

end Both

/-- **An event leaves the buffer in one way, unless the two overlap.**  However adds and flushes overlap,
if none is aborted and each add has an event of its own: the delivered events are those that some flush has
delivered, the events in overflow storage are those that some spill has handed over, and whenever an event
is handed over that a flush delivers at any time, it is handed over between the snapshot and the end of
that very flush. -/
theorem handedOver_while_carried (settings : Settings) (hasSink hasTransport : Bool)
    (steps : List (Instant × Label)) (own : (addedNames steps).Nodup)
    (unaborted : ∀ s ∈ steps, ∀ task, s.2 ≠ .abort task) (name : String) :
    let b := start settings hasSink hasTransport
    ((∃ event ∈ (b.run steps).delivered, event.id = name) ↔
      ∃ before s, before ++ [s] <+: steps ∧ ∃ flush, (b.run before).Delivers s.2 flush name) ∧
    ((∃ event ∈ (b.run steps).persisted, event.id = name) ↔
      ∃ before s, before ++ [s] <+: steps ∧ (b.run before).HandsOver s.2 name) ∧
    ∀ before s before' s' flush, before ++ [s] <+: steps → before' ++ [s'] <+: steps →
      (b.run before).HandsOver s.2 name → (b.run before').Delivers s'.2 flush name →
      (b.run before).Carries flush name := by
  intro b
  have rid : b.IsRid name := start_isRid settings hasSink hasTransport name
  have none : ∀ flush, ¬ b.Carries flush name :=
    fun flush => start_not_carries settings hasSink hasTransport flush name
  -- along the run an event is added once, and not again when it is known
  have once : ∀ before after, before ++ after = steps →
      (b.run before).IsOnce name ∧ ((b.run before).Knows name → name ∉ addedNames after) := by
    rintro before after rfl
    have hbefore := own
    rw [addedNames_append] at hbefore
    exact ⟨rid.run_isOnce none (List.nodup_append.mp hbefore).1, rid.not_added_again none own⟩
  have delivered := run_iff_exists (P := fun b => ∃ event ∈ b.delivered, event.id = name)
    (Q := fun b s => ∃ flush, b.Delivers s.2 flush name) mem_step_delivered b steps
  have persisted := run_iff_exists (P := fun b => ∃ event ∈ b.persisted, event.id = name)
    (Q := fun b s => b.HandsOver s.2 name) mem_step_persisted b steps
  refine ⟨by simpa [b, start] using delivered, by simpa [b, start] using persisted, ?_⟩
  intro before s before' s' flush hs hs' handed delivers
  rcases prefix_cases hs hs' with rfl | ⟨mid, rfl⟩ | ⟨mid, rfl⟩
  · -- no step does both
    obtain ⟨⟨_, _, _, hstored, _⟩, _⟩ := handed
    rw [hstored] at delivers
    cases delivers.1
  · obtain ⟨after, rfl⟩ := hs'
    obtain ⟨honce, hothers⟩ := once before ([s] ++ mid ++ [s'] ++ after) (by simp)
    have others := hothers (.inl handed.2)
    simp only [addedNames_append, List.mem_append, not_or] at others
    rw [run_append, run_concat] at delivers
    exact carried_of_delivers_after handed honce others.1.1.2 delivers
  · obtain ⟨after, rfl⟩ := hs
    obtain ⟨honce, hothers⟩ := once (before' ++ [s']) (mid ++ [s] ++ after) (by simp)
    rw [run_concat] at honce hothers
    have others := hothers (.inr ⟨flush, (delivers.hasSent s'.1).carries⟩)
    simp only [addedNames_append, List.mem_append, not_or] at others
    rw [run_append, run_concat] at handed ⊢
    exact carried_of_delivers_before delivers honce others.1.1
      (fun s'' hs'' => unaborted s'' (by simp [hs''])) handed

/-- While a flush sends an event, an add spills it; then the flush delivers it. -/
theorem handedOver_while_carried_in_spill :
    let event (id : String) : Event := ⟨id, "topic", "key", [], .clockStart, 0⟩
    let b := start { capacity := 1 } true true
    let steps : List (Instant × Label) := [(0, .add 0 (event "a")), (0, .resume 0),
      (1, .flush 1 10), (1, .resume 1), (1, .resume 1), (2, .add 2 (event "b")), (2, .resume 2),
      (3, .stored 2 (.ok ())), (4, .sent 1 (.ok ()))]
    (addedNames steps).Nodup ∧ (∀ s ∈ steps, ∀ task, s.2 ≠ .abort task) ∧
      ∃ before s flush, before ++ [s] <+: steps ∧ (b.run before).HandsOver s.2 "a" ∧
        (b.run before).Carries flush "a" := by
  intro event b steps
  have own : (addedNames steps).Nodup := by decide
  have unaborted : ∀ s ∈ steps, ∀ task, s.2 ≠ .abort task := by simp [steps]
  obtain ⟨delivered, persisted, overlap⟩ :=
    handedOver_while_carried { capacity := 1 } true true steps own unaborted "a"
  obtain ⟨before', s', hs', flush, delivers⟩ := delivered.mp ⟨event "a", by decide, rfl⟩
  obtain ⟨before, s, hs, handed⟩ := persisted.mp ⟨event "a", by decide, rfl⟩
  exact ⟨own, unaborted, before, s, flush, hs, handed, overlap _ _ _ _ _ hs hs' handed delivers⟩

/-- A flush has delivered the first of two events and sends the second, while an add spills both. -/
theorem handed_over_and_delivered :
    let event (id : String) : Event := ⟨id, "topic", "key", [], .clockStart, 0⟩
    let steps : List (Instant × Label) := [(0, .add 0 (event "a")), (0, .resume 0),
      (0, .add 1 (event "b")), (0, .resume 1), (1, .flush 2 10), (1, .resume 2), (1, .resume 2),
      (2, .sent 2 (.ok ())), (2, .add 3 (event "c")), (2, .resume 3), (3, .stored 3 (.ok ())),
      (4, .sent 2 (.error (.transport "down"))), (4, .resume 2)]
    let later := (start { capacity := 2 } true true).run steps
    (addedNames steps).Nodup ∧ (∀ s ∈ steps, ∀ task, s.2 ≠ .abort task) ∧
      event "a" ∈ later.delivered ∧ event "a" ∈ later.persisted := by
  intro event steps later
  exact ⟨by decide, by simp [steps], by decide, by decide⟩

end ProfileGuard.Buffer
