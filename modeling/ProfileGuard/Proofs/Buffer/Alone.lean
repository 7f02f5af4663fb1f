import ProfileGuard.Proofs.Buffer.Moves

/-!
# Operations that have the buffer for themselves

Where nobody holds a lock and nobody else is under way, an operation goes through without waiting, and a
whole operation can be said in one equation.

* **`Buffer.IsFree`** — nobody holds or waits for a lock.
* **`Buffer.add_alone`** — an add of a new event, where there is room, appends it.
* **`Buffer.flushSteps`** / **`Buffer.flushAlone`** — a flush that never waits for a lock.
* **`Buffer.flushAlone_breaksOff`** / **`Buffer.flushAlone_failing`** — if it breaks off, or nothing is
  delivered, a flush leaves all events where they are.
* **`Buffer.flushAlone_delivering`** — if everything is delivered, a flush empties the buffer, in order.
-/

namespace ProfileGuard.Buffer

/-- Nobody holds or waits for a lock. -/
structure IsFree (b : Buffer) : Prop where
  lock : b.lock = {}
  flushLock : b.flushLock = {}

/-- What an operation that has the buffer for itself leaves as it was: the settings, the transport, and the
locks, which are free again. -/
structure LeavesRest (b later : Buffer) : Prop where
  settings : later.settings = b.settings
  transport : later.hasTransport = b.hasTransport
  free : later.IsFree

variable {b : Buffer} {id : TaskId}

theorem LeavesRest.refl (free : b.IsFree) : b.LeavesRest b := ⟨rfl, rfl, free⟩

/-! ### Adding -/

/-- An add of a new event appends it, if there is room. -/
theorem add_alone {event : Event} (free : b.IsFree) (idle : b.stages id = .idle)
    (fresh : ∀ other ∈ b.events, other.id ≠ event.id) (room : b.events.length < b.settings.capacity)
    (since now : Instant) :
    (b.step since (.add id event)).step now (.resume id) = b.append id event := by
  have hany : b.events.any (·.id == event.id) = false := by simpa using fresh
  simp [step, begin, idle, resume, free.lock, Lock.request, Lock.isHeldBy, withStage, place, hany,
    appendOrReject, room, append, hold, endAdd, Lock.release]

theorem append_leavesRest (free : b.IsFree) (id : TaskId) (event : Event) :
    b.LeavesRest (b.append id event) where
  settings := rfl
  transport := rfl
  free := ⟨by simp [append, endAdd, hold, free.lock, Lock.release, withStage], free.flushLock⟩

/-! ### Flushing -/

/-- The steps of a flush that never waits for a lock, once it has begun: it takes its snapshot, sends are
answered until there is no more to send or its time is over, and it takes out what was delivered. -/
def flushSteps (id : TaskId) (began : Instant) (answers : List (Instant × Except Failure Unit))
    (ended : Instant) : List (Instant × Label) :=
  (began, .resume id) :: (began, .resume id) ::
    (answers.map (fun answer => (answer.1, .sent id answer.2)) ++
      [(ended, .sendExpired id), (ended, .resume id)])

/-- With nothing in the buffer a flush is over once it has its snapshot. -/
theorem flush_begins_empty (free : b.IsFree) (idle : b.stages id = .idle)
    (transport : b.hasTransport = true) (empty : b.events = []) (limit : Duration) (began : Instant) :
    ((b.step began (.flush id limit)).step began (.resume id)).step began (.resume id) =
      b.endFlush id (.ok 0) := by
  simp [step, begin, idle, transport, resume, free.lock, free.flushLock, Lock.request, Lock.isHeldBy,
    withStage, snapshot, empty, endFlush, Lock.release]

/-- The buffer while a flush that nobody waits for keeps other flushes away. -/
def whileFlushing (b : Buffer) (id : TaskId) : Buffer := { b with flushLock := ⟨some id, []⟩ }

/-- Otherwise it goes on with its snapshot, the whole content of the buffer. -/
theorem flush_begins (free : b.IsFree) (idle : b.stages id = .idle)
    (transport : b.hasTransport = true) (content : b.events ≠ []) {limit : Duration}
    {began : Instant} (told : began + limit ≤ Instant.last) :
    ((b.step began (.flush id limit)).step began (.resume id)).step began (.resume id) =
      (b.whileFlushing id).goOn id { limit, expires := began + limit, remaining := b.events } := by
  obtain ⟨event, rest, hevents⟩ := List.exists_cons_of_ne_nil content
  simp [step, begin, idle, transport, resume, free.lock, free.flushLock, Lock.request, Lock.isHeldBy,
    withStage, snapshot, hevents, Instant.after?, told, Lock.release, goOn, whileFlushing]

/-- If the clock cannot tell when it is to be over, it breaks off with its snapshot. -/
theorem flush_breaksOff (free : b.IsFree) (idle : b.stages id = .idle)
    (transport : b.hasTransport = true) (content : b.events ≠ []) {limit : Duration}
    {began : Instant} (untold : Instant.last < began + limit) :
    ((b.step began (.flush id limit)).step began (.resume id)).step began (.resume id) =
      b.withStage id .dropped := by
  obtain ⟨event, rest, hevents⟩ := List.exists_cons_of_ne_nil content
  simp [step, begin, idle, transport, resume, free.lock, free.flushLock, Lock.request, Lock.isHeldBy,
    withStage, snapshot, hevents, Instant.after?_eq_none_iff.mpr untold, Lock.release]

theorem goOn_withStage (b : Buffer) (id : TaskId) (stage : Stage) (d : Delivery) :
    (b.withStage id stage).goOn id d = b.goOn id d := by
  simp [goOn, requestClose, withStage]

theorem goOn_of_cons {d : Delivery} {event : Event} {rest : List Event}
    (remaining : d.remaining = event :: rest) : b.goOn id d = b.withStage id (.sending d) := by
  simp [goOn, remaining]

theorem goOn_of_nil {d : Delivery} (remaining : d.remaining = []) :
    b.goOn id d = b.requestClose id d := by
  simp [goOn, remaining]

/-- An answer that nobody waits for changes nothing. -/
theorem goOn_sent_nil {d : Delivery} (remaining : d.remaining = []) (now : Instant)
    (result : Except Failure Unit) : (b.goOn id d).step now (.sent id result) = b.goOn id d := by
  rw [goOn_of_nil remaining]
  simp [step]

theorem goOn_sent_ok {d : Delivery} {event : Event} {rest : List Event}
    (remaining : d.remaining = event :: rest) (now : Instant) :
    (b.goOn id d).step now (.sent id (.ok ())) =
      { b with delivered := b.delivered ++ [event] }.goOn id (d.after event rest (.ok ())) := by
  rw [goOn_of_cons remaining]
  simp only [step, withStage_stages, Tasks.set_self, remaining]
  exact goOn_withStage { b with delivered := b.delivered ++ [event] } id _ _

theorem goOn_sent_error {d : Delivery} {event : Event} {rest : List Event}
    (remaining : d.remaining = event :: rest) (now : Instant) (failure : Failure) :
    (b.goOn id d).step now (.sent id (.error failure)) =
      b.goOn id (d.after event rest (.error failure)) := by
  rw [goOn_of_cons remaining]
  simp only [step, withStage_stages, Tasks.set_self, remaining]
  exact goOn_withStage b id _ _

/-- As long as every send fails, a flush delivers nothing. -/
theorem run_sent_failing (b : Buffer) (id : TaskId) (answers : List (Instant × Except Failure Unit))
    (failing : ∀ answer ∈ answers, answer.2 ≠ .ok ()) (d : Delivery) :
    ∃ d', d'.delivered = d.delivered ∧
      (b.goOn id d).run (answers.map fun answer => (answer.1, .sent id answer.2)) =
        b.goOn id d' := by
  induction answers generalizing d with
  | nil => exact ⟨d, rfl, rfl⟩
  | cons answer answers ih =>
    have hrest : ∀ answer ∈ answers, answer.2 ≠ .ok () := fun other h =>
      failing other (List.mem_cons_of_mem _ h)
    rw [List.map_cons, run_cons]
    cases hresult : answer.2 with
    | ok _ => exact absurd hresult (failing answer List.mem_cons_self)
    | error failure =>
      cases hremaining : d.remaining with
      | nil =>
        obtain ⟨d', hdelivered, hrun⟩ := ih hrest d
        exact ⟨d', hdelivered, by rw [goOn_sent_nil hremaining, hrun]⟩
      | cons event rest =>
        obtain ⟨d', hdelivered, hrun⟩ := ih hrest (d.after event rest (.error failure))
        exact ⟨d', hdelivered, by rw [goOn_sent_error hremaining, hrun]⟩

/-- The identifiers of delivered events, after some more were delivered. -/
def namesWith (names : List String) (events : List Event) : List String :=
  events.foldl (fun names event => names.insert event.id) names

theorem mem_namesWith (names : List String) (events : List Event) (name : String) :
    name ∈ namesWith names events ↔ name ∈ names ∨ ∃ event ∈ events, event.id = name := by
  induction events generalizing names with
  | nil => simp [namesWith]
  | cons event events ih =>
    have hrec : namesWith names (event :: events) = namesWith (names.insert event.id) events := rfl
    rw [hrec, ih, List.mem_insert_iff]
    simp only [List.mem_cons, exists_eq_or_imp, or_assoc, or_left_comm, @eq_comm _ name]

/-- Distinct events have as many names. -/
theorem length_namesWith (names : List String) (events : List Event)
    (distinct : (events.map (·.id)).Nodup) (fresh : ∀ event ∈ events, event.id ∉ names) :
    (namesWith names events).length = names.length + events.length := by
  induction events generalizing names with
  | nil => rfl
  | cons event events ih =>
    rw [List.map_cons, List.nodup_cons] at distinct
    have hfresh : ∀ other ∈ events, other.id ∉ names.insert event.id := by
      intro other hother hmem
      rcases List.mem_insert_iff.mp hmem with hsame | hold
      · exact distinct.1 (hsame ▸ List.mem_map_of_mem hother)
      · exact fresh other (List.mem_cons_of_mem _ hother) hold
    have hrec : namesWith names (event :: events) = namesWith (names.insert event.id) events := rfl
    rw [hrec, ih _ distinct.2 hfresh, List.length_insert_of_not_mem (fresh event List.mem_cons_self),
      List.length_cons]
    omega

/-- If every send succeeds and all are answered, a flush delivers its whole snapshot, in order. -/
theorem run_sent_delivering (b : Buffer) (id : TaskId) (answers : List (Instant × Except Failure Unit))
    (delivering : ∀ answer ∈ answers, answer.2 = .ok ()) (d : Delivery)
    (enough : d.remaining.length ≤ answers.length) :
    (b.goOn id d).run (answers.map fun answer => (answer.1, .sent id answer.2)) =
      { b with delivered := b.delivered ++ d.remaining }.goOn id
        { d with remaining := [], delivered := namesWith d.delivered d.remaining } := by
  induction answers generalizing b d with
  | nil =>
    have hremaining : d.remaining = [] := List.length_eq_zero_iff.mp (Nat.le_zero.mp enough)
    obtain ⟨limit, expires, remaining, delivered, failed, lastError, cancelled⟩ := d
    subst hremaining
    simp [run, namesWith]
  | cons answer answers ih =>
    have hrest : ∀ answer ∈ answers, answer.2 = .ok () := fun other h =>
      delivering other (List.mem_cons_of_mem _ h)
    rw [List.map_cons, run_cons, delivering answer List.mem_cons_self]
    cases hremaining : d.remaining with
    | nil =>
      rw [goOn_sent_nil hremaining, ih _ hrest d (by simp [hremaining]), hremaining]
    | cons event rest =>
      have hlength : rest.length ≤ answers.length := by
        simp only [hremaining, List.length_cons] at enough
        omega
      rw [goOn_sent_ok hremaining, ih _ hrest _ hlength]
      simp [Delivery.after, namesWith]

/-- A flush whose time is over, or that has nothing left to send, takes out what was delivered. -/
theorem goOn_ends (b : Buffer) (id : TaskId) (free : b.lock = {}) (d : Delivery) (ended : Instant) :
    ∃ d', d'.delivered = d.delivered ∧ (d.remaining = [] → d' = d) ∧
      (b.goOn id d).run [(ended, .sendExpired id), (ended, .resume id)] = b.close id d' := by
  have closes : ∀ d', (b.requestClose id d').step ended (.resume id) = b.close id d' := by
    intro d'
    simp [step, resume, requestClose, free, Lock.request, Lock.isHeldBy, withStage, close, hold,
      endFlush, Lock.release]
  rw [run_cons, run_cons]
  cases hremaining : d.remaining with
  | nil =>
    refine ⟨d, rfl, fun _ => rfl, ?_⟩
    rw [goOn_of_nil hremaining]
    have hlate : (b.requestClose id d).step ended (.sendExpired id) = b.requestClose id d := by
      simp [step]
    rw [hlate]
    exact closes d
  | cons event rest =>
    refine ⟨{ d with cancelled := true }, rfl, fun h => by simp at h, ?_⟩
    rw [goOn_of_cons hremaining]
    have hlate : (b.withStage id (.sending d)).step ended (.sendExpired id) =
        b.requestClose id { d with cancelled := true } := by
      simp [step, requestClose, withStage]
    rw [hlate]
    exact closes _

/-! ### Whole flushes -/

theorem withStage_leavesRest (free : b.IsFree) (stage : Stage) :
    b.LeavesRest (b.withStage id stage) := ⟨rfl, rfl, free.lock, free.flushLock⟩

theorem endFlush_leavesRest (free : b.IsFree) (result : Except Error Nat) :
    b.LeavesRest (b.endFlush id result) where
  settings := rfl
  transport := rfl
  free := ⟨free.lock, by simp [endFlush, withStage, free.flushLock, Lock.release]⟩

theorem close_leavesRest (free : b.IsFree) (d : Delivery) :
    b.LeavesRest ((b.whileFlushing id).close id d) where
  settings := rfl
  transport := rfl
  free := ⟨by simp [close, endFlush, hold, whileFlushing, withStage, free.lock, Lock.release],
    by simp [close, endFlush, hold, whileFlushing, withStage, Lock.release]⟩

theorem label_of_mem_flushSteps {id : TaskId} {began ended : Instant}
    {answers : List (Instant × Except Failure Unit)} {s : Instant × Label}
    (h : s ∈ flushSteps id began answers ended) :
    s.2 = .resume id ∨ (∃ result, s.2 = .sent id result) ∨ s.2 = .sendExpired id := by
  simp only [flushSteps, List.mem_cons, List.mem_append, List.mem_map, List.not_mem_nil,
    or_false] at h
  rcases h with rfl | rfl | ⟨answer, _, rfl⟩ | rfl | rfl
  · exact .inl rfl
  · exact .inl rfl
  · exact .inr (.inl ⟨answer.2, rfl⟩)
  · exact .inr (.inr rfl)
  · exact .inl rfl

theorem flushSteps_own (id : TaskId) (began : Instant)
    (answers : List (Instant × Except Failure Unit)) (ended : Instant) :
    ∀ s ∈ flushSteps id began answers ended, s.2.task = id ∧ s.2.begins = false := by
  intro s h
  rcases label_of_mem_flushSteps h with h | ⟨result, h⟩ | h <;> rw [h] <;> exact ⟨rfl, rfl⟩

theorem flushSteps_not_abort (id : TaskId) (began : Instant)
    (answers : List (Instant × Except Failure Unit)) (ended : Instant) (other : TaskId) :
    ∀ s ∈ flushSteps id began answers ended, s.2 ≠ .abort other := by
  intro s h
  rcases label_of_mem_flushSteps h with h | ⟨result, h⟩ | h <;> rw [h] <;> simp

/-- A whole flush that runs alone. -/
def flushAlone (b : Buffer) (id : TaskId) (limit : Duration) (began : Instant)
    (answers : List (Instant × Except Failure Unit)) (ended : Instant) : Buffer :=
  (b.step began (.flush id limit)).run (flushSteps id began answers ended)

variable {answers : List (Instant × Except Failure Unit)}

/-- A flush of an empty buffer is over with its snapshot. -/
theorem flushAlone_of_empty (free : b.IsFree) (idle : b.stages id = .idle)
    (transport : b.hasTransport = true) (empty : b.events = []) (limit : Duration)
    (began ended : Instant) : b.flushAlone id limit began answers ended = b.endFlush id (.ok 0) := by
  rw [flushAlone, flushSteps, run_cons, run_cons, flush_begins_empty free idle transport empty]
  refine run_at_rest ?_ fun s h => flushSteps_own id began answers ended s ?_
  · simp [endFlush, Stage.IsAtRest]
  · exact List.mem_cons_of_mem _ (List.mem_cons_of_mem _ h)

/-- A flush that the clock cannot tell the end of leaves all events where they are. -/
theorem flushAlone_breaksOff (free : b.IsFree) (idle : b.stages id = .idle)
    (transport : b.hasTransport = true) (content : b.events ≠ []) {limit : Duration} {began : Instant}
    (untold : Instant.last < began + limit) (ended : Instant) :
    b.flushAlone id limit began answers ended = b.withStage id .dropped := by
  rw [flushAlone, flushSteps, run_cons, run_cons, flush_breaksOff free idle transport content untold]
  refine run_at_rest ?_ fun s h => flushSteps_own id began answers ended s ?_
  · simp [Stage.IsAtRest]
  · exact List.mem_cons_of_mem _ (List.mem_cons_of_mem _ h)

/-- A flush whose sends all fail takes nothing out. -/
theorem flushAlone_failing (free : b.IsFree) (idle : b.stages id = .idle)
    (transport : b.hasTransport = true)
    (failing : ∀ answer ∈ answers, answer.2 ≠ .ok ()) (limit : Duration)
    (began ended : Instant) :
    let later := b.flushAlone id limit began answers ended
    b.LeavesRest later ∧ later.delivered = b.delivered ∧
      ∃ failed, later.events = b.events.map (retried failed) := by
  intro later
  by_cases hevents : b.events = []
  · have hlater : later = b.endFlush id (.ok 0) :=
      flushAlone_of_empty free idle transport hevents limit began ended
    rw [hlater]
    refine ⟨endFlush_leavesRest free _, rfl, [], ?_⟩
    show b.events = _
    rw [hevents, List.map_nil]
  rcases Nat.lt_or_ge Instant.last (began + limit) with untold | told
  · have hlater : later = b.withStage id .dropped :=
      flushAlone_breaksOff free idle transport hevents untold ended
    rw [hlater]
    refine ⟨withStage_leavesRest free _, rfl, [], ?_⟩
    rw [withStage_events, map_retried_nil]
  · obtain ⟨d, hdelivered, hsends⟩ := run_sent_failing (b.whileFlushing id) id answers
      failing { limit, expires := began + limit, remaining := b.events }
    obtain ⟨d', hsame, _, hends⟩ := goOn_ends (b.whileFlushing id) id free.lock d ended
    have hlater : later = (b.whileFlushing id).close id d' := by
      show b.flushAlone id limit began answers ended = _
      rw [flushAlone, flushSteps, run_cons, run_cons, flush_begins free idle transport hevents told,
        run_append, hsends, hends]
    rw [hlater]
    refine ⟨close_leavesRest free d', rfl, d'.failed, ?_⟩
    have hnone : d'.delivered = [] := by rw [hsame, hdelivered]
    have hall : ((b.whileFlushing id).events.filter fun event => !d'.delivered.contains event.id) =
        b.events := by
      refine List.filter_eq_self.mpr fun event _ => ?_
      simp [hnone]
    rw [close_events, hall]

/-- A flush whose sends are all answered and all succeed empties the buffer, in order, if the clock can tell
when it is to be over. -/
theorem flushAlone_delivering (free : b.IsFree) (idle : b.stages id = .idle)
    (transport : b.hasTransport = true) (distinct : (b.events.map (·.id)).Nodup)
    (delivering : ∀ answer ∈ answers, answer.2 = .ok ()) (enough : b.events.length ≤ answers.length)
    {limit : Duration} {began : Instant} (told : b.events = [] ∨ began + limit ≤ Instant.last)
    (ended : Instant) :
    let later := b.flushAlone id limit began answers ended
    later.delivered = b.delivered ++ b.events ∧ later.events = [] ∧
      later.stages id = .finished (.flushed (.ok b.events.length)) := by
  intro later
  by_cases hevents : b.events = []
  · have hlater : later = b.endFlush id (.ok 0) :=
      flushAlone_of_empty free idle transport hevents limit began ended
    rw [hlater]
    refine ⟨?_, hevents, ?_⟩
    · rw [hevents, List.append_nil]
      rfl
    · rw [hevents]
      exact Tasks.set_self _ _ _
  · let d : Delivery :=
      { limit, expires := began + limit, remaining := [], delivered := namesWith [] b.events }
    let sent : Buffer := { b.whileFlushing id with delivered := b.delivered ++ b.events }
    have hsends := run_sent_delivering (b.whileFlushing id) id answers delivering
      { limit, expires := began + limit, remaining := b.events } enough
    obtain ⟨d', _, hnothing, hends⟩ := goOn_ends sent id free.lock d ended
    have hlater : later = sent.close id d := by
      show b.flushAlone id limit began answers ended = _
      rw [flushAlone, flushSteps, run_cons, run_cons,
        flush_begins free idle transport hevents (told.resolve_left hevents), run_append, hsends,
        ← hnothing rfl]
      exact hends
    have hnames : (namesWith [] b.events).length = b.events.length := by
      rw [length_namesWith [] b.events distinct (by simp)]
      simp
    have hnone : (b.events.filter fun event => !(namesWith [] b.events).contains event.id) = [] := by
      refine List.filter_eq_nil_iff.mpr fun event h => ?_
      have hmem : event.id ∈ namesWith [] b.events :=
        (mem_namesWith _ _ _).mpr (.inr ⟨event, h, rfl⟩)
      simp [hmem]
    rw [hlater]
    refine ⟨rfl, ?_, ?_⟩
    · rw [close_events]
      show (List.filter _ b.events).map _ = []
      rw [hnone, List.map_nil]
    · rw [close_stages, Tasks.set_self]
      show Stage.finished (.flushed (.ok (namesWith [] b.events).length)) = _
      rw [hnames]

end ProfileGuard.Buffer
