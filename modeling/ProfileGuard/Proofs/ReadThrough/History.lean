import Mathlib.Data.List.Induction
import ProfileGuard.ReadThrough.Basic

/-!
# The history of reads through a cache

What happens to reads, written down from outside: a read begins, its call to the cache ends with a value or
without one, the primary store is asked and answers, and a value is put into the cache by someone else.  The
notes about one read tell how far it has come.

* **`ReadThrough.Note`** — one thing that happened.
* **`ReadThrough.noted`** / **`ReadThrough.log`** — the notes of a step and of a run.
* **`ReadThrough.Move`** / **`ReadThrough.step_move`** — the moves of a step, each with its notes.
* **`ReadThrough.Stage.IsToldBy`** — the notes about a read, at each stage of it.
* **`ReadThrough.run_isToldBy`** — along every run these are the notes about a read.
-/

namespace ProfileGuard.ReadThrough

variable {α : Type}

/-- One thing that happened to a read, or to the cache from outside. -/
inductive Note (α : Type) where
  | began (id : TaskId) (key : String)
  /-- The guarded call to the cache ended, with a value or without one. -/
  | looked (id : TaskId) (value : Option α)
  /-- The primary store was asked. -/
  | started (id : TaskId)
  /-- The primary store answered. -/
  | loaded (id : TaskId) (result : Except Failure α)
  /-- A value was put into the cache from outside. -/
  | seeded (key : String) (value : α)

/-- The read that a note is about. -/
def Note.task? : Note α → Option TaskId
  | began id _ | looked id _ | started id | loaded id _ => some id
  | seeded _ _ => none

/-- Whether a note is about a read. -/
def Note.isAbout (id : TaskId) (note : Note α) : Bool := note.task? == some id

/-- Whether the primary store was asked for a read. -/
def Note.starts (id : TaskId) : Note α → Bool
  | started other => other == id
  | _ => false

/-- Whether the guarded call to the cache ended without a value for a read. -/
def Note.misses (id : TaskId) : Note α → Bool
  | looked other none => other == id
  | _ => false

/-- The operation that a label is about. -/
def Label.task? : Label α → Option TaskId
  | get id _ | answered id _ | loaded id _ | refill id | refilled id _ | refillExpired id | call id _
  | settle id _ | expire id | drop id => some id
  | seed _ _ | observe => none

/-- Whether the primary store is being asked. -/
def Stage.isLoading : Stage α → Bool
  | loading _ => true
  | _ => false

/-- What a label tells about a read, or about the cache. -/
def told (r : ReadThrough α) (now : Instant) : Label α → List (Note α)
  | .get id key =>
    match r.stages id, (r.breaker.acquire now).2 with
    | .idle, .ok _ => [.began id key]
    | .idle, .error _ => [.began id key, .looked id none]
    | _, _ => []
  | .answered id result =>
    match r.stages id, result with
    | .asking key generation, .ok _ =>
      if r.breaker.breaksOff now generation true then [] else [.looked id (r.cached? key)]
    | .asking _ generation, .error _ =>
      if r.breaker.breaksOff now generation false then [] else [.looked id none]
    | _, _ => []
  | .loaded id result =>
    match r.stages id with
    | .loading _ => [.loaded id result]
    | _ => []
  | .seed key value => [.seeded key value]
  | _ => []

/-- The note that the primary store is asked, where an operation comes to that stage. -/
def startNoted (r : ReadThrough α) (now : Instant) (label : Label α) : List (Note α) :=
  match label.task? with
  | some id =>
    if !(r.stages id).isLoading && ((r.step now label).stages id).isLoading then [.started id] else []
  | none => []

/-- The notes of one step, in their order. -/
def noted (r : ReadThrough α) (now : Instant) (label : Label α) : List (Note α) :=
  r.told now label ++ r.startNoted now label

/-- The notes of a run, oldest first. -/
def log (r : ReadThrough α) : List (Instant × Label α) → List (Note α)
  | [] => []
  | s :: steps => r.noted s.1 s.2 ++ (r.step s.1 s.2).log steps

/-! ### Moves -/

/-- What can happen to reads through a cache, with its notes. -/
inductive Move (r : ReadThrough α) : List (Note α) → ReadThrough α → Prop where
  /-- Nothing happens but in the breaker. -/
  | stay (breaker : Breaker) : Move r [] { r with breaker }
  | ask (id : TaskId) (key : String) (generation : UInt64) (idle : r.stages id = .idle)
      (breaker : Breaker) :
      Move r [.began id key] ({ r with breaker }.withStage id (.asking key generation))
  /-- The breaker refuses the call to the cache. -/
  | refused (id : TaskId) (key : String) (idle : r.stages id = .idle) (breaker : Breaker) :
      Move r [.began id key, .looked id none, .started id] ({ r with breaker }.withStage id (.loading key))
  | found (id : TaskId) (key : String) (generation : UInt64) (value : α)
      (stage : r.stages id = .asking key generation) (cached : r.cached? key = some value)
      (breaker : Breaker) :
      Move r [.looked id (some value)]
        ({ r with breaker, metrics := { r.metrics with hits := r.metrics.hits.increment } }.withStage id
          (.finished (.ok ⟨value, true⟩)))
  /-- The cache holds nothing, or fails. -/
  | missed (id : TaskId) (key : String) (generation : UInt64)
      (stage : r.stages id = .asking key generation) (breaker : Breaker) :
      Move r [.looked id none, .started id] ({ r with breaker }.withStage id (.loading key))
  | failed (id : TaskId) (key : String) (error : Failure) (stage : r.stages id = .loading key) :
      Move r [.loaded id (.error error)] (r.withStage id (.finished (.error error)))
  /-- The primary store gives a value, which a refill may be about to put into the cache. -/
  | delivered (id : TaskId) (key : String) (value : α) (stage : r.stages id = .loading key)
      (breaker : Breaker) (refill : Refill α)
      (own : refill = r.refills id ∨ refill = .pending key value) :
      Move r [.loaded id (.ok value)]
        (({ r with
            breaker
            metrics := { r.metrics with fallbacks := r.metrics.fallbacks.increment } }.withStage id
          (.finished (.ok ⟨value, false⟩))).withRefill id refill)
  | refill (id : TaskId) (key : String) (value : α) (pending : r.refills id = .pending key value)
      (breaker : Breaker) (refill : Refill α)
      (own : refill = .over ∨ ∃ generation expires, refill = .writing key value generation expires) :
      Move r [] ({ r with breaker }.withRefill id refill)
  | refilled (id : TaskId) (key : String) (value : α) (generation : UInt64) (expires : Instant)
      (writing : r.refills id = .writing key value generation expires) (breaker : Breaker) :
      Move r [] ({ r.store key value with breaker }.withRefill id .over)
  /-- A refill fails or is late. -/
  | notRefilled (id : TaskId) (breaker : Breaker) : Move r [] ({ r with breaker }.withRefill id .over)
  | seed (key : String) (value : α) : Move r [.seeded key value] (r.store key value)
  /-- Another call to the cache begins, goes on or ends. -/
  | call (id : TaskId) (stage : Stage α)
      (before : r.stages id = .idle ∨ ∃ flight, r.stages id = .calling flight)
      (after : (∃ flight, stage = .calling flight) ∨ (∃ result, stage = .called result) ∨
        stage = .dropped)
      (breaker : Breaker) : Move r [] ({ r with breaker }.withStage id stage)
  /-- A read is abandoned, or the breaker breaks off. -/
  | drop (id : TaskId) (key : String)
      (stage : (∃ generation, r.stages id = .asking key generation) ∨ r.stages id = .loading key)
      (breaker : Breaker) : Move r [] ({ r with breaker }.withStage id .dropped)

variable {now : Instant} {r later : ReadThrough α} {id : TaskId} {label : Label α}

/-- What cannot happen makes no note. -/
theorem Move.of_same (same : r.step now label = r) (quiet : r.told now label = []) :
    Move r (r.noted now label) (r.step now label) := by
  have hnoted : r.noted now label = [] := by
    unfold noted startNoted
    rw [quiet, same]
    cases label.task? <;> simp
  rw [hnoted, same]
  exact .stay r.breaker

/-- A step that is a move, with the notes that it makes. -/
theorem Move.of_step {notes : List (Note α)} (move : Move r notes later) (step : r.step now label = later)
    (noted : r.told now label ++ (match label.task? with
      | some id => if !(r.stages id).isLoading && (later.stages id).isLoading then [.started id] else []
      | none => []) = notes) : Move r (r.noted now label) (r.step now label) := by
  rw [ReadThrough.noted, startNoted, step, noted]
  exact move

section

attribute [local simp] step told Label.task?

theorem get_move (now : Instant) (r : ReadThrough α) (id : TaskId) (key : String) :
    Move r (r.noted now (.get id key)) (r.step now (.get id key)) := by
  cases hstage : r.stages id with
  | idle =>
    rcases hacquire : r.breaker.acquire now with ⟨breaker, refusal | generation⟩
    · exact Move.of_step (.refused id key hstage breaker) (by simp [hstage, get, hacquire])
        (by simp [hstage, hacquire, withStage, Stage.isLoading])
    · exact Move.of_step (.ask id key generation hstage breaker) (by simp [hstage, get, hacquire])
        (by simp [hstage, hacquire, withStage, Stage.isLoading])
  | _ => exact Move.of_same (by simp [hstage]) (by simp [hstage])

/-- A guarded call ends: the operation goes on, or the breaker breaks off. -/
theorem conclude_cases (r : ReadThrough α) (now : Instant) (id : TaskId) (generation : UInt64)
    (success : Bool) (goOn : ReadThrough α → ReadThrough α) :
    (r.breaker.breaksOff now generation success = true ∧
        r.conclude now id generation success goOn
          = (r.record now generation success).withStage id .dropped) ∨
      (r.breaker.breaksOff now generation success = false ∧
        r.conclude now id generation success goOn = goOn (r.record now generation success)) := by
  unfold conclude
  cases hbreaks : r.breaker.breaksOff now generation success
  · exact .inr ⟨rfl, if_neg (by simp)⟩
  · exact .inl ⟨rfl, if_pos rfl⟩

theorem answered_move (now : Instant) (r : ReadThrough α) (id : TaskId) (result : Except Failure Unit) :
    Move r (r.noted now (.answered id result)) (r.step now (.answered id result)) := by
  cases hstage : r.stages id with
  | asking key generation =>
    cases result with
    | ok _ =>
      have hcached : (r.record now generation true).cached? key = r.cached? key := rfl
      rcases r.conclude_cases now id generation true (·.look id key) with
        ⟨hbreaks, hconclude⟩ | ⟨hgoes, hconclude⟩
      · exact Move.of_step (.drop id key (.inl ⟨generation, hstage⟩) _)
          (by simp only [step, hstage]; exact hconclude)
          (by simp [hstage, hbreaks, withStage, Stage.isLoading])
      · cases hvalue : r.cached? key with
        | some value =>
          exact Move.of_step (.found id key generation value hstage hvalue _)
            (by simp only [step, hstage]; rw [hconclude]; simp only [look, hcached, hvalue]; rfl)
            (by simp [hstage, hgoes, hvalue, withStage, Stage.isLoading])
        | none =>
          exact Move.of_step (.missed id key generation hstage _)
            (by simp only [step, hstage]; rw [hconclude]; simp only [look, hcached, hvalue]; rfl)
            (by simp [hstage, hgoes, hvalue, withStage, Stage.isLoading])
    | error e =>
      rcases r.conclude_cases now id generation false (·.withStage id (.loading key)) with
        ⟨hbreaks, hconclude⟩ | ⟨hgoes, hconclude⟩
      · exact Move.of_step (.drop id key (.inl ⟨generation, hstage⟩) _)
          (by simp only [step, hstage]; exact hconclude)
          (by simp [hstage, hbreaks, withStage, Stage.isLoading])
      · exact Move.of_step (.missed id key generation hstage _)
          (by simp only [step, hstage]; exact hconclude)
          (by simp [hstage, hgoes, withStage, Stage.isLoading])
  | _ => exact Move.of_same (by simp [hstage]) (by simp [hstage])

/-- A delivery, with the refill that may be about to begin. -/
theorem deliver_eq (r : ReadThrough α) (now : Instant) (id : TaskId) (key : String) (value : α) :
    ∃ refill, (refill = r.refills id ∨ refill = .pending key value) ∧
      r.deliver now id key value =
        ({ r with
            breaker := r.breaker.poll now
            metrics := { r.metrics with fallbacks := r.metrics.fallbacks.increment } }.withStage id
          (.finished (.ok ⟨value, false⟩))).withRefill id refill := by
  unfold deliver
  dsimp only
  split
  · refine ⟨r.refills id, .inl rfl, ?_⟩
    have hsame : r.refills.set id (r.refills id) = r.refills := by
      funext task
      rw [Tasks.set_apply]
      split
      · rename_i htask
        rw [htask]
      · rfl
    simp only [withRefill, withStage, hsame]
  · exact ⟨.pending key value, .inr rfl, rfl⟩

theorem loaded_move (now : Instant) (r : ReadThrough α) (id : TaskId) (result : Except Failure α) :
    Move r (r.noted now (.loaded id result)) (r.step now (.loaded id result)) := by
  cases hstage : r.stages id with
  | loading key =>
    cases result with
    | ok value =>
      obtain ⟨refill, own, hdeliver⟩ := r.deliver_eq now id key value
      exact Move.of_step (.delivered id key value hstage _ refill own)
        (by simp only [step, hstage]; exact hdeliver)
        (by simp [hstage, Stage.isLoading])
    | error error =>
      exact Move.of_step (.failed id key error hstage) (by simp only [step, hstage])
        (by simp [hstage, Stage.isLoading])
  | _ => exact Move.of_same (by simp [hstage]) (by simp [hstage])

/-- A step that is a move without notes: no operation comes to the stage where the primary store is
asked. -/
theorem Move.of_quiet (move : Move r [] later) (step : r.step now label = later)
    (told : r.told now label = []) (task : label.task? = some id)
    (quiet : later.stages id = r.stages id ∨ (later.stages id).isLoading = false) :
    Move r (r.noted now label) (r.step now label) := by
  refine Move.of_step move step ?_
  rw [told, task]
  rcases quiet with same | quiet
  · simp [same]
  · simp [quiet]

theorem refill_move (now : Instant) (r : ReadThrough α) (id : TaskId) :
    Move r (r.noted now (.refill id)) (r.step now (.refill id)) := by
  cases hrefill : r.refills id with
  | pending key value =>
    rcases hacquire : r.breaker.acquire now with ⟨breaker, refusal | generation⟩
    · exact Move.of_quiet (.refill id key value hrefill breaker .over (.inl rfl))
        (by simp only [step, hrefill, beginRefill, hacquire]) rfl rfl (.inl rfl)
    · exact Move.of_quiet (.refill id key value hrefill breaker _ (.inr ⟨generation, _, rfl⟩))
        (by simp only [step, hrefill, beginRefill, hacquire]; rfl) rfl rfl (.inl rfl)
  | _ => exact Move.of_same (by simp [hrefill]) rfl

theorem refilled_move (now : Instant) (r : ReadThrough α) (id : TaskId) (result : Except Failure Unit) :
    Move r (r.noted now (.refilled id result)) (r.step now (.refilled id result)) := by
  cases hrefill : r.refills id with
  | writing key value generation expires =>
    cases result with
    | ok _ =>
      exact Move.of_quiet (.refilled id key value generation expires hrefill _)
        (by simp only [step, hrefill]; rfl) rfl rfl (.inl rfl)
    | error e =>
      exact Move.of_quiet (.notRefilled id _) (by simp only [step, hrefill]; rfl) rfl rfl (.inl rfl)
  | _ => exact Move.of_same (by simp [hrefill]) rfl

theorem refillExpired_move (now : Instant) (r : ReadThrough α) (id : TaskId) :
    Move r (r.noted now (.refillExpired id)) (r.step now (.refillExpired id)) := by
  cases hrefill : r.refills id with
  | writing key value generation expires =>
    exact Move.of_quiet (.notRefilled id _) (by simp only [step, hrefill]; rfl) rfl rfl (.inl rfl)
  | _ => exact Move.of_same (by simp [hrefill]) rfl

theorem call_move (now : Instant) (r : ReadThrough α) (id : TaskId) (limit : Option Duration) :
    Move r (r.noted now (.call id limit)) (r.step now (.call id limit)) := by
  cases hstage : r.stages id with
  | idle =>
    rcases hacquire : r.breaker.acquire now with ⟨breaker, refusal | generation⟩
    · exact Move.of_quiet (.call id _ (.inl hstage) (.inr (.inl ⟨_, rfl⟩)) breaker)
        (by simp only [step, hstage, call, hacquire]; rfl) rfl rfl
        (.inr (by simp [withStage, Stage.isLoading]))
    · exact Move.of_quiet (.call id _ (.inl hstage) (.inl ⟨_, rfl⟩) breaker)
        (by simp only [step, hstage, call, hacquire]; rfl) rfl rfl
        (.inr (by simp [withStage, Stage.isLoading]))
  | _ => exact Move.of_same (by simp [hstage]) rfl

/-- Another call to the cache ends, with a result unless the breaker breaks off. -/
theorem endCall_move {flight : Breaker.Flight} {result : Except (Breaker.CallError Failure) Unit}
    {generation : UInt64} {success : Bool} (stage : r.stages id = .calling flight)
    (step : r.step now label = r.conclude now id generation success (·.withStage id (.called result)))
    (told : r.told now label = []) (task : label.task? = some id) :
    Move r (r.noted now label) (r.step now label) := by
  rcases r.conclude_cases now id generation success (·.withStage id (.called result)) with
    ⟨_, hconclude⟩ | ⟨_, hconclude⟩
  · exact Move.of_quiet (.call id .dropped (.inr ⟨flight, stage⟩) (.inr (.inr rfl)) _)
      (step.trans hconclude) told task (.inr (by simp [withStage, Stage.isLoading]))
  · exact Move.of_quiet (.call id _ (.inr ⟨flight, stage⟩) (.inr (.inl ⟨result, rfl⟩)) _)
      (step.trans hconclude) told task (.inr (by simp [withStage, Stage.isLoading]))

theorem settle_move (now : Instant) (r : ReadThrough α) (id : TaskId) (result : Except Failure Unit) :
    Move r (r.noted now (.settle id result)) (r.step now (.settle id result)) := by
  cases hstage : r.stages id with
  | calling flight =>
    cases result with
    | ok _ => exact endCall_move hstage (by simp only [step, hstage]; rfl) rfl rfl
    | error e => exact endCall_move hstage (by simp only [step, hstage]; rfl) rfl rfl
  | _ => exact Move.of_same (by simp [hstage]) rfl

theorem expire_move (now : Instant) (r : ReadThrough α) (id : TaskId) :
    Move r (r.noted now (.expire id)) (r.step now (.expire id)) := by
  cases hstage : r.stages id with
  | calling flight =>
    obtain ⟨generation, since, limit⟩ := flight
    cases limit with
    | some limit => exact endCall_move hstage (by simp only [step, hstage]; rfl) rfl rfl
    | none => exact Move.of_same (by simp [hstage]) rfl
  | _ => exact Move.of_same (by simp [hstage]) rfl

theorem drop_move (now : Instant) (r : ReadThrough α) (id : TaskId) :
    Move r (r.noted now (.drop id)) (r.step now (.drop id)) := by
  have dropped (breaker : Breaker) :
      (({ r with breaker }.withStage id .dropped).stages id).isLoading = false := by
    simp [withStage, Stage.isLoading]
  cases hstage : r.stages id with
  | asking key generation =>
    exact Move.of_quiet (.drop id key (.inl ⟨generation, hstage⟩) _) (by simp only [step, hstage]; rfl)
      rfl rfl (.inr (dropped _))
  | loading key =>
    exact Move.of_quiet (.drop id key (.inr hstage) r.breaker) (by simp only [step, hstage]) rfl rfl
      (.inr (dropped _))
  | calling flight =>
    exact Move.of_quiet (.call id .dropped (.inr ⟨flight, hstage⟩) (.inr (.inr rfl)) _)
      (by simp only [step, hstage]; rfl) rfl rfl (.inr (dropped _))
  | _ => exact Move.of_same (by simp [hstage]) rfl

end

/-- **Every step is a move** that makes the notes of the step. -/
theorem step_move (now : Instant) (r : ReadThrough α) (label : Label α) :
    Move r (r.noted now label) (r.step now label) := by
  cases label with
  | get id key => exact get_move now r id key
  | answered id result => exact answered_move now r id result
  | loaded id result => exact loaded_move now r id result
  | refill id => exact refill_move now r id
  | refilled id result => exact refilled_move now r id result
  | refillExpired id => exact refillExpired_move now r id
  | seed key value => exact .seed key value
  | call id limit => exact call_move now r id limit
  | settle id result => exact settle_move now r id result
  | expire id => exact expire_move now r id
  | observe => exact .stay _
  | drop id => exact drop_move now r id

/-! ### The notes about one read -/

/-- The notes about a read that has come to a stage. -/
inductive Stage.IsToldBy (id : TaskId) : Stage α → List (Note α) → Prop where
  | idle : IsToldBy id .idle []
  | asking (key : String) (generation : UInt64) : IsToldBy id (.asking key generation) [.began id key]
  | loading (key : String) :
      IsToldBy id (.loading key) [.began id key, .looked id none, .started id]
  | failed (key : String) (error : Failure) :
      IsToldBy id (.finished (.error error))
        [.began id key, .looked id none, .started id, .loaded id (.error error)]
  | loaded (key : String) (value : α) :
      IsToldBy id (.finished (.ok ⟨value, false⟩))
        [.began id key, .looked id none, .started id, .loaded id (.ok value)]
  | found (key : String) (value : α) :
      IsToldBy id (.finished (.ok ⟨value, true⟩)) [.began id key, .looked id (some value)]
  /-- A call to the cache that is no read. -/
  | calling (flight : Breaker.Flight) : IsToldBy id (.calling flight) []
  | called (result : Except (Breaker.CallError Failure) Unit) : IsToldBy id (.called result) []
  | droppedCall : IsToldBy id .dropped []
  | droppedAsking (key : String) : IsToldBy id .dropped [.began id key]
  | droppedLoading (key : String) :
      IsToldBy id .dropped [.began id key, .looked id none, .started id]

/-- The notes about a read. -/
def storyOf (log : List (Note α)) (id : TaskId) : List (Note α) := log.filter (Note.isAbout id)

variable {notes log : List (Note α)}

theorem storyOf_append (log more : List (Note α)) (id : TaskId) :
    storyOf (log ++ more) id = storyOf log id ++ storyOf more id := List.filter_append log more

theorem mem_storyOf {note : Note α} (about : note.task? = some id) :
    note ∈ storyOf log id ↔ note ∈ log := by
  rw [storyOf, List.mem_filter, Note.isAbout, about, beq_self_eq_true, and_iff_left rfl]

/-- What is counted of a read is counted in its story. -/
theorem countP_storyOf {p : Note α → Bool} (about : ∀ note, p note = true → note.task? = some id) :
    (storyOf log id).countP p = log.countP p := by
  rw [storyOf, List.countP_filter]
  refine List.countP_congr fun note _ => ?_
  rw [Bool.and_eq_true, and_iff_left_iff_imp]
  intro hnote
  rw [Note.isAbout, about note hnote, beq_self_eq_true]

theorem task?_of_starts (note : Note α) (h : note.starts id = true) : note.task? = some id := by
  cases note with
  | started other => rw [Note.task?, beq_iff_eq.mp h]
  | _ => cases h

theorem task?_of_misses (note : Note α) (h : note.misses id = true) : note.task? = some id := by
  cases note with
  | looked other value =>
    cases value with
    | none => rw [Note.task?, beq_iff_eq.mp h]
    | some value => cases h
  | _ => cases h

section

variable {stage : Stage α} {story : List (Note α)}

/-- The primary store is asked exactly where the cache gave no value, and once at most. -/
theorem Stage.IsToldBy.starts (told : stage.IsToldBy id story) :
    story.countP (Note.starts id) = story.countP (Note.misses id) ∧
      story.countP (Note.starts id) ≤ 1 := by
  cases told <;> simp [Note.starts, Note.misses]

/-- The primary store answers only where it was asked. -/
theorem Stage.IsToldBy.started (told : stage.IsToldBy id story) {result : Except Failure α}
    (h : .loaded id result ∈ story) : .started id ∈ story := by
  cases told <;> simp_all

/-- A read fails as the primary store fails it. -/
theorem Stage.IsToldBy.failed_iff (told : stage.IsToldBy id story) (error : Failure) :
    stage = .finished (.error error) ↔ .loaded id (.error error) ∈ story := by
  cases told <;> simp [eq_comm]

/-- A read ends with a value that is not from the cache as the primary store gives it. -/
theorem Stage.IsToldBy.delivered_iff (told : stage.IsToldBy id story) (value : α) :
    stage = .finished (.ok ⟨value, false⟩) ↔ .loaded id (.ok value) ∈ story := by
  cases told <;> simp [eq_comm]

/-- A read that ends with a value from the cache did nothing else. -/
theorem Stage.IsToldBy.story_of_found {value : α}
    (told : Stage.IsToldBy id (.finished (.ok ⟨value, true⟩)) story) :
    ∃ key, story = [.began id key, .looked id (some value)] := by
  cases told
  exact ⟨_, rfl⟩

end

/-- A move of one operation adds its notes to the story of that operation only. -/
theorem isToldBy_set {own : TaskId} {stage : Stage α}
    (h : ∀ id, (r.stages id).IsToldBy id (storyOf log id))
    (stages : later.stages = r.stages.set own stage) (about : ∀ note ∈ notes, note.task? = some own)
    (told : ∀ story, (r.stages own).IsToldBy own story → stage.IsToldBy own (story ++ notes))
    (id : TaskId) : (later.stages id).IsToldBy id (storyOf (log ++ notes) id) := by
  rw [storyOf_append, stages, Tasks.set_apply]
  split
  · rename_i hid
    subst hid
    have hall : storyOf notes id = notes := by
      refine List.filter_eq_self.mpr fun note hnote => ?_
      rw [Note.isAbout, about note hnote, beq_self_eq_true]
    rw [hall]
    exact told _ (h id)
  · rename_i hid
    have hnone : storyOf notes id = [] := by
      refine List.filter_eq_nil_iff.mpr fun note hnote => ?_
      rw [Note.isAbout, about note hnote, beq_iff_eq]
      exact fun heq => hid (Option.some.inj heq).symm
    rw [hnone, List.append_nil]
    exact h id

/-- Every move tells what it does. -/
theorem Move.isToldBy (move : Move r notes later)
    (h : ∀ id, (r.stages id).IsToldBy id (storyOf log id)) :
    ∀ id, (later.stages id).IsToldBy id (storyOf (log ++ notes) id) := by
  cases move with
  | stay | refill | refilled | notRefilled =>
    rw [List.append_nil]
    exact h
  | seed key value =>
    intro id
    rw [storyOf_append]
    show (r.stages id).IsToldBy id (storyOf log id ++ [])
    rw [List.append_nil]
    exact h id
  | ask own key generation idle =>
    refine isToldBy_set h rfl (by simp [Note.task?]) fun story hstory => ?_
    rw [idle] at hstory
    cases hstory
    exact .asking key generation
  | refused own key idle =>
    refine isToldBy_set h rfl (by simp [Note.task?]) fun story hstory => ?_
    rw [idle] at hstory
    cases hstory
    exact .loading key
  | found own key generation value stage =>
    refine isToldBy_set h rfl (by simp [Note.task?]) fun story hstory => ?_
    rw [stage] at hstory
    cases hstory
    exact .found key value
  | missed own key generation stage =>
    refine isToldBy_set h rfl (by simp [Note.task?]) fun story hstory => ?_
    rw [stage] at hstory
    cases hstory
    exact .loading key
  | failed own key error stage =>
    refine isToldBy_set h rfl (by simp [Note.task?]) fun story hstory => ?_
    rw [stage] at hstory
    cases hstory
    exact .failed key error
  | delivered own key value stage =>
    refine isToldBy_set h rfl (by simp [Note.task?]) fun story hstory => ?_
    rw [stage] at hstory
    cases hstory
    exact .loaded key value
  | call own stage before after =>
    refine isToldBy_set h rfl (by simp) fun story hstory => ?_
    have hnone : story = [] := by
      rcases before with before | ⟨flight, before⟩ <;> rw [before] at hstory <;> cases hstory <;> rfl
    rw [hnone]
    rcases after with ⟨flight, rfl⟩ | ⟨result, rfl⟩ | rfl
    · exact .calling flight
    · exact .called result
    · exact .droppedCall
  | drop own key stage =>
    refine isToldBy_set h rfl (by simp) fun story hstory => ?_
    rw [List.append_nil]
    rcases stage with ⟨generation, stage⟩ | stage
    · rw [stage] at hstory
      cases hstory
      exact .droppedAsking key
    · rw [stage] at hstory
      cases hstory
      exact .droppedLoading key

/-! ### Runs -/

theorem run_append (r : ReadThrough α) (before after : List (Instant × Label α)) :
    r.run (before ++ after) = (r.run before).run after := List.foldl_append

theorem log_append (r : ReadThrough α) (before after : List (Instant × Label α)) :
    r.log (before ++ after) = r.log before ++ (r.run before).log after := by
  induction before generalizing r with
  | nil => rfl
  | cons s before ih =>
    show r.noted s.1 s.2 ++ (r.step s.1 s.2).log (before ++ after) = _
    rw [ih, ← List.append_assoc]
    rfl

/-- What holds at the beginning, without notes, and is kept by every move with its notes, holds along every
run with the notes of the run. -/
theorem run_induction {P : List (Note α) → ReadThrough α → Prop} {r : ReadThrough α} (start : P [] r)
    (move : ∀ log notes r later, P log r → Move r notes later → P (log ++ notes) later)
    (steps : List (Instant × Label α)) : P (r.log steps) (r.run steps) := by
  induction steps using List.reverseRecOn with
  | nil => exact start
  | append_singleton steps s ih =>
    rw [log_append, run_append]
    have hlast : (r.run steps).log [s] = (r.run steps).noted s.1 s.2 := List.append_nil _
    rw [hlast]
    exact move _ _ _ _ ih (step_move s.1 (r.run steps) s.2)

/-- Along every run the notes about a read tell how far it has come. -/
theorem run_isToldBy (breaker : Breaker) (refillLimit : Duration) (steps : List (Instant × Label α))
    (id : TaskId) :
    let fresh : ReadThrough α := start breaker refillLimit
    ((fresh.run steps).stages id).IsToldBy id (storyOf (fresh.log steps) id) := by
  intro fresh
  have h := run_induction (P := fun log r => ∀ id, (r.stages id).IsToldBy id (storyOf log id))
    (r := fresh) (fun _ => .idle) (fun _ _ _ _ h move => move.isToldBy h) steps
  exact h id

end ProfileGuard.ReadThrough
