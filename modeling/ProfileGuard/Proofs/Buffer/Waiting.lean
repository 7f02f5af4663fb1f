import ProfileGuard.Buffer.Scene
import ProfileGuard.Proofs.Buffer.Alone
import ProfileGuard.Proofs.Buffer.Queue

/-!
# Nobody waits for a lock that is free

A task that asks for a lock gets it or joins the line, and a lock that is given back goes to the head of the
line.  So the tasks that hold a lock or wait for it are those that are at a stage that needs it, and as long
as there are any, one of them holds it.  An operation that waits for a lock therefore waits for another one
that can go on.

* **`Lock.Serves`** — a lock serves the tasks that want it, each of them once.
* **`Buffer.Move.lock_cases`** / **`Buffer.Move.flushLock_cases`** — what a move does to the two locks.
* **`Buffer.IsOrderly`** — the invariant.
* **`Buffer.IsQuiet.isAtRest`** — where nothing can go on, every operation is over.
-/

namespace ProfileGuard

deriving instance DecidableEq for Lock

/-! ### A lock and those who want it -/

namespace Lock

/-- The tasks that hold a lock or wait for it, in order. -/
def tasks (l : Lock) : List TaskId := l.holder.toList ++ l.line

/-- A lock serves the tasks that want it: nobody waits while it is free, and nobody has asked twice. -/
structure Serves (l : Lock) (wants : TaskId → Prop) : Prop where
  busy : l.holder = none → l.line = []
  distinct : l.tasks.Nodup
  tasks : ∀ task, task ∈ l.tasks ↔ wants task

variable {l : Lock} {wants wants' : TaskId → Prop} {id task : TaskId}

theorem tasks_request (busy : l.holder = none → l.line = []) :
    (l.request id).tasks = l.tasks ++ [id] := by
  unfold request
  cases hholder : l.holder with
  | none => simp [Lock.tasks, hholder, busy hholder]
  | some holder => simp [Lock.tasks, hholder]

theorem tasks_release (l : Lock) : l.release.tasks = l.line := by
  unfold release
  cases hline : l.line <;> simp [Lock.tasks]

theorem tasks_leave (busy : l.holder = none → l.line = []) : (l.leave id).tasks = l.tasks.erase id := by
  unfold leave
  cases hholder : l.holder with
  | none => simp [Lock.tasks, hholder, busy hholder]
  | some holder =>
    by_cases hown : holder = id
    · rw [if_pos (congrArg some hown), tasks_release]
      simp [Lock.tasks, hholder, hown]
    · simp [Lock.tasks, hholder, hown]

theorem busy_request : (l.request id).holder = none → (l.request id).line = [] := by
  unfold request
  cases hholder : l.holder <;> simp

theorem busy_release (l : Lock) : l.release.holder = none → l.release.line = [] := by
  unfold release
  cases l.line <;> simp

theorem busy_leave (busy : l.holder = none → l.line = []) :
    (l.leave id).holder = none → (l.leave id).line = [] := by
  unfold leave
  split
  · exact busy_release l
  · intro hnone
    simp [busy hnone]

namespace Serves

theorem congr (h : l.Serves wants) (same : ∀ task, wants task ↔ wants' task) : l.Serves wants' :=
  ⟨h.busy, h.distinct, fun task => (h.tasks task).trans (same task)⟩

/-- A task that did not want the lock asks for it. -/
theorem request (h : l.Serves wants) (fresh : ¬ wants id) (own : wants' id)
    (others : ∀ task, task ≠ id → (wants' task ↔ wants task)) : (l.request id).Serves wants' where
  busy := busy_request
  distinct := by
    rw [tasks_request h.busy]
    refine List.nodup_append.mpr ⟨h.distinct, by simp, ?_⟩
    rintro task hmem _ hid rfl
    rw [List.mem_singleton.mp hid] at hmem
    exact fresh ((h.tasks id).mp hmem)
  tasks task := by
    rw [tasks_request h.busy, List.mem_append, List.mem_singleton, h.tasks]
    by_cases htask : task = id
    · subst htask
      simp [own]
    · simp [htask, others task htask]

/-- A task no longer wants the lock. -/
theorem leave (h : l.Serves wants) (own : ¬ wants' id)
    (others : ∀ task, task ≠ id → (wants' task ↔ wants task)) : (l.leave id).Serves wants' where
  busy := busy_leave h.busy
  distinct := by
    rw [tasks_leave h.busy]
    exact h.distinct.erase id
  tasks task := by
    rw [tasks_leave h.busy, h.distinct.mem_erase_iff, h.tasks]
    by_cases htask : task = id
    · subst htask
      simp [own]
    · simp [htask, others task htask]

/-- Where a task wants the lock, some task that wants it holds it. -/
theorem exists_holder (h : l.Serves wants) (wanted : wants task) :
    ∃ holder, l.holder = some holder ∧ wants holder := by
  cases hholder : l.holder with
  | none =>
    have hmem := (h.tasks task).mpr wanted
    simp [Lock.tasks, hholder, h.busy hholder] at hmem
  | some holder => exact ⟨holder, rfl, (h.tasks holder).mp (by simp [Lock.tasks, hholder])⟩

end Serves

end Lock

namespace Buffer

variable {now : Instant} {b later : Buffer} {id task : TaskId}

/-! ### What a move does to the locks -/

/-- An operation holds the lock on the events or waits for it. -/
def Stage.WantsLock : Stage → Prop
  | adding _ | spilling _ _ | reading _ | closing _ | viewing => True
  | _ => False

/-- An operation is a flush under way. -/
def Stage.IsFlush : Stage → Prop
  | flushing _ | reading _ | sending _ | closing _ => True
  | _ => False

/-- How the lock of some stages goes on when an operation goes from one stage to another. -/
inductive Passes (l : Lock) (id : TaskId) (before after : Prop) (l' : Lock) : Prop where
  | keep (lock : l' = l) (same : after ↔ before)
  | join (lock : l' = l.request id) (before : ¬ before) (after : after)
  | leave (lock : l' = l.leave id) (after : ¬ after)

theorem Passes.serves {l l' : Lock} {wants wants' : TaskId → Prop} (h : l.Serves wants)
    (passes : Passes l id (wants id) (wants' id) l')
    (others : ∀ task, task ≠ id → (wants' task ↔ wants task)) : l'.Serves wants' := by
  cases passes with
  | keep lock same =>
    rw [lock]
    refine h.congr fun task => ?_
    by_cases htask : task = id
    · subst htask
      exact same.symm
    · exact (others task htask).symm
  | join lock before after =>
    rw [lock]
    exact h.request before after others
  | leave lock after =>
    rw [lock]
    exact h.leave after others

theorem holder_of_isHeldBy {l : Lock} (held : l.isHeldBy id = true) : l.holder = some id := by
  simpa [Lock.isHeldBy] using held

/-- A lock that its holder gives back. -/
theorem release_eq_leave {l : Lock} (held : l.holder = some id) : l.release = l.leave id := by
  simp [Lock.leave, held]

theorem appendOrReject_lock (b : Buffer) (id : TaskId) (event : Event) :
    (b.appendOrReject id event).lock = b.lock.release := by
  rcases appendOrReject_cases b id event with h | h <;> rw [h] <;> rfl

theorem appendOrReject_wants (b : Buffer) (id : TaskId) (event : Event) :
    ¬ ((b.appendOrReject id event).stages id).WantsLock := by
  obtain ⟨_, hstages⟩ := appendOrReject_stage b id event
  rw [hstages, Tasks.set_self]
  exact not_false

/-- A flush that goes on with its snapshot asks for the lock at the end only. -/
theorem goOn_lock_cases (b : Buffer) (id : TaskId) (d : Delivery) :
    Passes b.lock id False ((b.goOn id d).stages id).WantsLock (b.goOn id d).lock := by
  unfold goOn
  split
  · exact .join rfl not_false (by simp [Stage.WantsLock])
  · exact .keep rfl (by simp [Stage.WantsLock])

theorem snapshot_lock (b : Buffer) (now : Instant) (id : TaskId) (limit : Duration) :
    (b.snapshot now id limit).lock = b.lock.release := by
  unfold Buffer.snapshot
  dsimp only
  split <;> rfl

/-- What a move does to the lock on the events. -/
theorem Move.lock_cases (move : Move now b id later) (exclusive : b.HoldsWhileSpilling) :
    Passes b.lock id (b.stages id).WantsLock (later.stages id).WantsLock later.lock := by
  cases move with
  | stay => exact .keep rfl Iff.rfl
  | add event idle | view idle =>
    refine .join rfl (by rw [idle]; exact not_false) ?_
    simp [Stage.WantsLock]
  | flush limit idle | noTransport idle => exact .keep rfl (by simp [idle, Stage.WantsLock])
  | spill event stage => exact .keep rfl (by simp [stage, Stage.WantsLock])
  | known event stage held =>
    exact .leave (release_eq_leave (holder_of_isHeldBy held)) (by simp [Stage.WantsLock])
  | put event stage held =>
    refine .leave ?_ (appendOrReject_wants b id event)
    rw [appendOrReject_lock, release_eq_leave (holder_of_isHeldBy held)]
  | stored event expires stage =>
    refine .leave ?_ (appendOrReject_wants b.spilled id event)
    rw [appendOrReject_lock]
    exact release_eq_leave (exclusive id event expires stage)
  | notStored event expires stage =>
    refine .leave ?_ (appendOrReject_wants b id event)
    rw [appendOrReject_lock, release_eq_leave (exclusive id event expires stage)]
  | read limit stage => exact .join rfl (by rw [stage]; exact not_false) (by simp [Stage.WantsLock])
  | snapshot limit stage held =>
    refine .leave ((snapshot_lock b now id limit).trans
      (release_eq_leave (holder_of_isHeldBy held))) ?_
    rcases snapshot_stage b now id limit with ⟨_, hstages⟩ | ⟨_, _, _, hstages⟩ | hstages <;>
      rw [hstages, Tasks.set_self] <;> exact not_false
  | sent d event rest stage =>
    rw [stage]
    exact goOn_lock_cases { b with delivered := b.delivered ++ [event] } id _
  | notSent d event rest error stage =>
    rw [stage]
    exact goOn_lock_cases b id _
  | late d stage => exact .join rfl (by rw [stage]; exact not_false) (by simp [Stage.WantsLock])
  | close d stage held =>
    exact .leave (release_eq_leave (holder_of_isHeldBy held)) (by simp [Stage.WantsLock])
  | viewed stage held =>
    exact .leave (release_eq_leave (holder_of_isHeldBy held)) (by simp [Stage.WantsLock])
  | drop active =>
    unfold abort
    split <;> rename_i stage
    case h_4 | h_5 => exact .keep rfl (by simp [stage, Stage.WantsLock])
    case h_8 | h_9 | h_10 => exact .keep rfl Iff.rfl
    all_goals exact .leave rfl (by simp [Stage.WantsLock])

/-- What a move does to the lock that keeps flushes apart. -/
theorem Move.flushLock_cases (move : Move now b id later) (apart : b.KeepsFlushesApart) :
    Passes b.flushLock id (b.stages id).IsFlush (later.stages id).IsFlush later.flushLock := by
  cases move with
  | stay => exact .keep rfl Iff.rfl
  | add event idle | view idle | noTransport idle => exact .keep rfl (by simp [idle, Stage.IsFlush])
  | known event stage | spill event stage | viewed stage =>
    exact .keep rfl (by simp [stage, Stage.IsFlush])
  | put event stage | notStored event expires stage =>
    obtain ⟨_, hstages⟩ := appendOrReject_stage b id event
    refine .keep (appendOrReject_flushLock b id event) ?_
    rw [hstages, Tasks.set_self, stage]
    exact Iff.rfl
  | stored event expires stage =>
    obtain ⟨_, hstages⟩ := appendOrReject_stage b.spilled id event
    refine .keep (appendOrReject_flushLock b.spilled id event) ?_
    rw [hstages, spilled_stages, Tasks.set_self, stage]
    exact Iff.rfl
  | flush limit idle => exact .join rfl (by rw [idle]; exact not_false) (by simp [Stage.IsFlush])
  | read limit stage | late d stage => exact .keep rfl (by simp [stage, Stage.IsFlush])
  | snapshot limit stage =>
    have held := apart id (by rw [stage]; trivial)
    unfold Buffer.snapshot
    dsimp only
    split
    · exact .leave (release_eq_leave held) (by simp [endFlush, Stage.IsFlush])
    · exact .keep rfl (by simp [stage, Stage.IsFlush])
    · exact .leave (release_eq_leave held) (by simp [withStage, Stage.IsFlush])
  | sent d event rest stage =>
    obtain ⟨own, hown, hstages⟩ := goOn_stage { b with delivered := b.delivered ++ [event] } id
      (d.after event rest (.ok ()))
    refine .keep (goOn_flushLock _ id _) ?_
    rw [hstages, Tasks.set_self, stage]
    rcases hown with rfl | rfl <;> exact Iff.rfl
  | notSent d event rest error stage =>
    obtain ⟨own, hown, hstages⟩ := goOn_stage b id (d.after event rest (.error error))
    refine .keep (goOn_flushLock _ id _) ?_
    rw [hstages, Tasks.set_self, stage]
    rcases hown with rfl | rfl <;> exact Iff.rfl
  | close d stage =>
    have held := apart id (by rw [stage]; trivial)
    exact .leave (release_eq_leave held) (by simp [Stage.IsFlush])
  | drop active =>
    unfold abort
    split <;> rename_i stage
    case h_1 | h_2 | h_3 => exact .keep rfl (by simp [stage, Stage.IsFlush])
    case h_8 | h_9 | h_10 => exact .keep rfl Iff.rfl
    all_goals exact .leave rfl (by simp [Stage.IsFlush])

/-! ### Along a run -/

/-- A run without steps of an operation leaves it where it is. -/
theorem run_stages_other (b : Buffer) (steps : List (Instant × Label)) (task : TaskId)
    (others : ∀ s ∈ steps, s.2.task ≠ task) : (b.run steps).stages task = b.stages task := by
  induction steps generalizing b with
  | nil => rfl
  | cons s steps ih =>
    rw [run_cons, ih (b.step s.1 s.2) fun s' hs' => others s' (List.mem_cons_of_mem _ hs')]
    exact (step_move s.1 b s.2).stages_other (others s List.mem_cons_self).symm

/-- A flush that sends has something to send. -/
def SendsSomething (b : Buffer) : Prop := ∀ task d, b.stages task = .sending d → d.remaining ≠ []

theorem goOn_sendsSomething {d d' : Delivery} (h : (b.goOn id d).stages id = .sending d') :
    d'.remaining ≠ [] := by
  unfold goOn at h
  split at h
  · simp at h
  · rename_i hremaining
    obtain rfl : d = d' := by simpa using h
    simpa using hremaining

theorem Move.sendsSomething (move : Move now b id later) (h : b.SendsSomething) :
    later.SendsSomething := by
  intro task d hstage
  by_cases htask : task = id
  · subst htask
    cases move with
    | stay => exact h task d hstage
    | put event | notStored event =>
      obtain ⟨_, hstages⟩ := appendOrReject_stage b task event
      rw [hstages, Tasks.set_self] at hstage
      cases hstage
    | stored event =>
      obtain ⟨_, hstages⟩ := appendOrReject_stage b.spilled task event
      rw [hstages, Tasks.set_self] at hstage
      cases hstage
    | snapshot limit =>
      unfold Buffer.snapshot at hstage
      dsimp only at hstage
      split at hstage
      · simp [endFlush] at hstage
      · rename_i hevents
        obtain rfl : _ = d := by simpa using hstage
        exact hevents
      · simp [withStage] at hstage
    | sent d' event rest | notSent d' event rest error => exact goOn_sendsSomething hstage
    | drop active =>
      rcases abort_stage b task with hsame | hstages
      · exact h task d (hsame ▸ hstage)
      · simp [hstages] at hstage
    | _ => simp at hstage
  · rw [move.stages_other htask] at hstage
    exact h task d hstage

/-- Both locks serve the operations that are at a stage that needs them, who is past a lock holds it, and
who sends has something to send. -/
structure IsOrderly (b : Buffer) : Prop where
  exclusive : b.HoldsWhileSpilling
  apart : b.KeepsFlushesApart
  sends : b.SendsSomething
  lock : b.lock.Serves fun task => (b.stages task).WantsLock
  flushLock : b.flushLock.Serves fun task => (b.stages task).IsFlush

theorem IsOrderly.move (h : b.IsOrderly) (move : Move now b id later) : later.IsOrderly where
  exclusive := move.holdsWhileSpilling h.exclusive
  apart := move.keepsFlushesApart h.apart
  sends := move.sendsSomething h.sends
  lock := (move.lock_cases h.exclusive).serves h.lock fun _ hne => by rw [move.stages_other hne]
  flushLock := (move.flushLock_cases h.apart).serves h.flushLock
    fun _ hne => by rw [move.stages_other hne]

theorem start_isOrderly (settings : Settings) (hasSink hasTransport : Bool) :
    (start settings hasSink hasTransport).IsOrderly where
  exclusive _ _ _ h := by cases h
  apart := start_keepsFlushesApart settings hasSink hasTransport
  sends _ _ h := by cases h
  lock := ⟨fun _ => rfl, List.nodup_nil, fun _ => ⟨fun h => absurd h List.not_mem_nil, fun h => h.elim⟩⟩
  flushLock :=
    ⟨fun _ => rfl, List.nodup_nil, fun _ => ⟨fun h => absurd h List.not_mem_nil, fun h => h.elim⟩⟩

/-- A buffer that some run leads to. -/
def IsReachable (b : Buffer) : Prop :=
  ∃ settings hasSink hasTransport steps, b = (start settings hasSink hasTransport).run steps

theorem IsReachable.step (reachable : b.IsReachable) (now : Instant) (label : Label) :
    (b.step now label).IsReachable := by
  obtain ⟨settings, hasSink, hasTransport, earlier, rfl⟩ := reachable
  refine ⟨settings, hasSink, hasTransport, earlier ++ [(now, label)], ?_⟩
  rw [run_append]
  rfl

theorem IsReachable.run (reachable : b.IsReachable) (steps : List (Instant × Label)) :
    (b.run steps).IsReachable := by
  induction steps generalizing b with
  | nil => exact reachable
  | cons s steps ih => exact ih (reachable.step s.1 s.2)

theorem IsReachable.isOrderly (reachable : b.IsReachable) : b.IsOrderly := by
  obtain ⟨settings, hasSink, hasTransport, earlier, rfl⟩ := reachable
  exact run_induction (fun _ _ _ _ h move => h.move move) (start_isOrderly settings hasSink hasTransport)
    earlier

theorem IsReachable.isQueue (reachable : b.IsReachable) : ∃ appended, b.IsQueue appended := by
  obtain ⟨settings, hasSink, hasTransport, earlier, rfl⟩ := reachable
  exact ⟨_, (start_isQueue settings hasSink hasTransport).run
    (start_spillsWhenFull settings hasSink hasTransport) earlier⟩

/-! ### Where nothing can go on -/

/-- Nothing can go on: nobody holds a lock that it waited for, and nobody waits for an outlet. -/
def IsQuiet (b : Buffer) : Prop := ∀ task, b.canResume task = false ∧ b.job? task = none

/-- Where nothing can go on, nobody waits for the lock on the events. -/
theorem IsQuiet.not_wantsLock (quiet : b.IsQuiet) (orderly : b.IsOrderly) (task : TaskId) :
    ¬ (b.stages task).WantsLock := by
  intro wanted
  obtain ⟨holder, hholder, hwants⟩ := orderly.lock.exists_holder wanted
  obtain ⟨stuck, jobless⟩ := quiet holder
  have held : b.lock.isHeldBy holder = true := by simp [Lock.isHeldBy, hholder]
  cases hstage : b.stages holder with
  | adding | reading | closing | viewing => simp [canResume, hstage, held] at stuck
  | spilling => simp [job?, hstage] at jobless
  | _ => simp [hstage, Stage.WantsLock] at hwants

/-- Where nothing can go on, no flush is under way. -/
theorem IsQuiet.not_isFlush (quiet : b.IsQuiet) (orderly : b.IsOrderly) (task : TaskId) :
    ¬ (b.stages task).IsFlush := by
  intro wanted
  obtain ⟨holder, hholder, hwants⟩ := orderly.flushLock.exists_holder wanted
  obtain ⟨stuck, jobless⟩ := quiet holder
  have held : b.flushLock.isHeldBy holder = true := by simp [Lock.isHeldBy, hholder]
  cases hstage : b.stages holder with
  | flushing => simp [canResume, hstage, held] at stuck
  | sending d => simp [job?, hstage, orderly.sends holder d hstage] at jobless
  | reading | closing => exact quiet.not_wantsLock orderly holder (by rw [hstage]; trivial)
  | _ => simp [hstage, Stage.IsFlush] at hwants

/-- Where both locks are free, nothing can go on. -/
theorem IsFree.isQuiet (free : b.IsFree) (orderly : b.IsOrderly) : b.IsQuiet := by
  have notFlush : ∀ task, ¬ (b.stages task).IsFlush := by
    intro task hflush
    have hmem := (orderly.flushLock.tasks task).mpr hflush
    rw [free.flushLock] at hmem
    exact absurd hmem List.not_mem_nil
  intro task
  refine ⟨?_, ?_⟩
  · cases hstage : b.stages task <;> simp [canResume, hstage, Lock.isHeldBy, free.lock, free.flushLock]
  · cases hstage : b.stages task with
    | spilling event expires =>
      have hholder := orderly.exclusive task event expires hstage
      rw [free.lock] at hholder
      cases hholder
    | sending d => exact absurd (by rw [hstage]; trivial) (notFlush task)
    | _ => simp [job?, hstage]

/-- **Nobody waits for ever.**  Where nothing can go on, every operation that began is over. -/
theorem IsQuiet.isAtRest (quiet : b.IsQuiet) (orderly : b.IsOrderly) (task : TaskId) :
    (b.stages task).IsAtRest := by
  have notWaiting := quiet.not_wantsLock orderly task
  have notFlushing := quiet.not_isFlush orderly task
  cases hstage : b.stages task with
  | idle | finished | dropped => trivial
  | flushing | sending => exact absurd (by rw [hstage]; trivial) notFlushing
  | adding | spilling | reading | closing | viewing =>
    exact absurd (by rw [hstage]; trivial) notWaiting

end Buffer

end ProfileGuard
