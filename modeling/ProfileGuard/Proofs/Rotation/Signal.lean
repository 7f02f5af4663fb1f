import ProfileGuard.Proofs.Field.Lifetime
import ProfileGuard.Proofs.Rotation.Checker
import ProfileGuard.Proofs.Simulation
import ProfileGuard.Rotation.Watch

/-!
# What is published about the age of a key

A manager is used along the clock: its key is changed, or is not because the new one is refused, its checker
is started and stopped, once or many times, and time passes.  A diary keeps the notes about all this, made
from the script alone.  At each step of the script, what is published is exactly what the diary says.

* **`Rotation.Deed`** — what is done with a manager, and the encryptor and the note that it leaves.
* **`Rotation.Diary`** — the instant, the encryptor and the notes after the steps of a script.
* **`Rotation.Watch.Follows`** — a script under way and its diary.
* **`Rotation.Watch.settle_tick`** / **`Rotation.Watch.advance_noted`** — the checker at an instant, and while
  time passes.
* **`Rotation.Watch.Follows.enter`** — each step of a script keeps that, with what it needs for the next.
* **`Rotation.Watch.signal_exact`** — the published value, at each step of each script.
-/

namespace ProfileGuard.Rotation

open Simulation (Step Progress)

/-- What is done with a manager along the clock. -/
inductive Deed where
  /-- A key written in base64 is to become the current one. -/
  | rotate (key : String)
  | start
  | stop
  | observe (observer : Nat)
  | addKey (version : UInt32) (key : Field.Key)
  | setCurrent (version : UInt32)
  /-- Something that changes nothing is asked, such as what was published. -/
  | ask

namespace Deed

/-- The manager after a deed. -/
def perform (now : Instant) (m : Manager) : Deed → Manager
  | .rotate key => (m.perform (.rotate now key)).1
  | .start => m.startChecker now
  | .stop => m.stopChecker
  | .observe observer => m.observe observer
  | .addKey version key => (m.perform (.addKey version key)).1
  | .setCurrent version => (m.perform (.setCurrent version)).1
  | .ask => m

/-- The encryptor after a deed, or why the deed is refused. -/
def change (e : Field.Encryptor) : Deed → Except Field.Error Field.Encryptor
  | .rotate key => do e.promote (← Field.Key.ofBase64 key)
  | .addKey version key => e.addKey version key
  | .setCurrent version => e.setCurrent version
  | .start | .stop | .observe _ | .ask => .ok e

/-- What is noted about a deed that is not refused. -/
def note? : Deed → Option Note
  | .rotate _ => some .rotated
  | .start => some .started
  | .stop => some .stopped
  | .observe _ | .addKey .. | .setCurrent _ | .ask => none

end Deed

/-- A deed with what is answered to it, which may depend on notes of the asker and change them. -/
structure Command (ν α : Type) where
  deed : Deed
  answer : Instant → Manager → ν → ν × α

/-- A command as a question to the manager. -/
def Command.question {ν α : Type} (c : Command ν α) : Watch.Question ν α :=
  fun now m notes => (c.deed.perform now m, c.answer now m notes)

/-- What is known after the steps of a script without looking at the manager. -/
structure Diary where
  now : Instant := 0
  encryptor : Field.Encryptor
  notes : Chronicle := []

namespace Diary

variable {ν α : Type}

/-- A deed that is not refused changes the encryptor and is noted. -/
def record (d : Diary) (deed : Deed) : Diary :=
  match deed.change d.encryptor with
  | .ok encryptor =>
    { d with encryptor, notes := (deed.note?.map fun note => (d.now, note)).toList ++ d.notes }
  | .error _ => d

/-- A step of a script. -/
def write (d : Diary) : Step (Command ν α) → Diary
  | .wait time => { d with now := d.now + time }
  | .perform command | .spawn _ command => d.record command.deed
  | .join _ | .abort _ => d

/-- The diary of a script. -/
def ofScript (e : Field.Encryptor) (script : List (Step (Command ν α))) : Diary :=
  script.foldl write { encryptor := e }

theorem record_now (d : Diary) (deed : Deed) : (d.record deed).now = d.now := by
  unfold record
  split <;> rfl

end Diary

variable {m : Manager} {d : Diary}

/-! ### Deeds -/

/-- A rotation in terms of the encryptor's. -/
theorem Manager.rotate_eq (m : Manager) (now : Instant) (key : String) :
    m.rotate now key = ((Deed.rotate key).change m.encryptor).map fun encryptor =>
      ({ m with
          encryptor
          lastRotation := now
          due := false
          publications := m.publications + 1
          announced := m.announced ++ m.announce m.encryptor.current encryptor.current },
        encryptor.current) := by
  have hchange : (Deed.rotate key).change m.encryptor =
      (do m.encryptor.promote (← Field.Key.ofBase64 key)) := rfl
  rw [hchange, rotate]
  cases Field.Key.ofBase64 key with
  | error e => rfl
  | ok key =>
    simp only [bind, Except.bind]
    cases m.encryptor.promote key <;> rfl

/-- A manager that is as its notes say has no look waiting. -/
theorem Manager.AsNoted.tick {now : Instant} {notes : Chronicle} (h : m.AsNoted now notes) :
    m.tick now = m := by
  unfold Manager.tick
  split
  · rename_i next hnext
    exact if_neg (Nat.not_le.mpr (h.runs_of_next hnext).2.1)
  · rfl

/-- A deed that brings no look. -/
theorem Manager.AsNoted.perform_of_noted {deed : Deed}
    (hlater : (deed.perform d.now m).AsNoted d.now (d.record deed).notes)
    (henc : (deed.perform d.now m).encryptor = (d.record deed).encryptor)
    (hschedule : (deed.perform d.now m).schedule = m.schedule) :
    let later := (deed.perform d.now m).tick d.now
    later.AsNoted d.now (d.record deed).notes ∧ later.encryptor = (d.record deed).encryptor ∧
      later.schedule = m.schedule := by
  intro later
  have hsame : later = deed.perform d.now m := hlater.tick
  rw [hsame]
  exact ⟨hlater, henc, hschedule⟩

/-- A deed that changes nothing but the keys, if it is not refused. -/
theorem Manager.AsNoted.perform_of_adopt (h : m.AsNoted d.now d.notes)
    (henc : m.encryptor = d.encryptor) {deed : Deed} (hnote : deed.note? = none)
    (hperform : deed.perform d.now m = (m.adopt (deed.change m.encryptor)).1) :
    let later := (deed.perform d.now m).tick d.now
    later.AsNoted d.now (d.record deed).notes ∧ later.encryptor = (d.record deed).encryptor ∧
      later.schedule = m.schedule := by
  rw [henc] at hperform
  cases hchange : deed.change d.encryptor with
  | error e =>
    rw [hchange] at hperform
    have hrecord : d.record deed = d := by rw [Diary.record, hchange]
    refine perform_of_noted ?_ ?_ ?_ <;> rw [hperform]
    · rw [hrecord]
      exact h
    · rw [hrecord]
      exact henc
    · rfl
  | ok encryptor =>
    rw [hchange] at hperform
    have hrecord : d.record deed = { d with encryptor } := by
      rw [Diary.record, hchange, hnote]
      rfl
    refine perform_of_noted ?_ ?_ ?_ <;> rw [hperform]
    · rw [hrecord]
      exact h.congr rfl rfl rfl rfl
    · rw [hrecord]
      rfl
    · rfl

/-- Each deed, with the look that it may bring, leaves the manager as the diary says. -/
theorem Manager.AsNoted.perform (h : m.AsNoted d.now d.notes) (henc : m.encryptor = d.encryptor)
    (positive : 0 < m.schedule.interval) (deed : Deed) :
    let later := (deed.perform d.now m).tick d.now
    later.AsNoted d.now (d.record deed).notes ∧ later.encryptor = (d.record deed).encryptor ∧
      later.schedule = m.schedule := by
  cases deed with
  | rotate key =>
    have hperform := m.rotate_eq d.now key
    rw [henc] at hperform
    cases hchange : (Deed.rotate key).change d.encryptor with
    | error e =>
      have hsame : (Deed.rotate key).perform d.now m = m := by
        rw [Deed.perform, Manager.perform, hperform, hchange]
        rfl
      have hrecord : d.record (.rotate key) = d := by rw [Diary.record, hchange]
      refine perform_of_noted ?_ ?_ ?_ <;> rw [hsame]
      · rw [hrecord]
        exact h
      · rw [hrecord]
        exact henc
    | ok encryptor =>
      have hrecord : d.record (.rotate key) =
          { d with encryptor, notes := (d.now, .rotated) :: d.notes } := by
        rw [Diary.record, hchange]
        rfl
      refine perform_of_noted ?_ ?_ ?_ <;>
        rw [Deed.perform, Manager.perform, hperform, hchange]
      · rw [hrecord]
        exact h.rotated rfl rfl rfl rfl
      · rw [hrecord]
        rfl
      · rfl
  | start =>
    cases hruns : d.notes.runs with
    | true => exact perform_of_noted (h.started hruns) henc rfl
    | false =>
      have hnext : (m.startChecker d.now).nextTick = some d.now := by
        rw [Manager.startChecker, h.rests hruns]
        rfl
      have htick := Manager.tick_of_next hnext (Nat.le_refl d.now)
      refine ⟨h.startedAtRest positive hruns, ?_, ?_⟩ <;> rw [Deed.perform, htick]
      · exact Manager.check_encryptor.trans henc
      · exact Manager.check_schedule
  | stop => exact perform_of_noted h.stopped henc rfl
  | observe observer => exact perform_of_noted (h.congr rfl rfl rfl rfl) henc rfl
  | addKey version key => exact h.perform_of_adopt henc rfl rfl
  | setCurrent version => exact h.perform_of_adopt henc rfl rfl
  | ask => exact perform_of_noted h henc rfl

namespace Watch

variable {ν α : Type} {w : Watch ν α} {now target : Instant} {notes : Chronicle} {fuel : Nat}

/-! ### The checker at an instant -/

/-- Where everything due has happened, nothing more can happen. -/
theorem act?_of_noted (h : w.manager.AsNoted now notes) : w.act? now = none := by
  unfold act?
  split
  · rename_i next hnext
    exact if_neg (Nat.not_le.mpr (h.runs_of_next hnext).2.1)
  · rfl

/-- The checker looks at most once at an instant. -/
theorem settle_tick (h : (w.manager.tick now).AsNoted now notes) (first : Option TaskId)
    (hfuel : 0 < fuel) :
    (simulation ν α).settle first now fuel w = { w with manager := w.manager.tick now } := by
  have last : ({ w with manager := w.manager.tick now } : Watch ν α).act? now = none := act?_of_noted h
  cases hact : w.act? now with
  | some later =>
    have hlater : later = { w with manager := w.manager.tick now } := by
      unfold act? at hact
      split at hact
      · split at hact
        · exact (Option.some.inj hact).symm
        · cases hact
      · cases hact
    rw [hlater] at hact
    exact Simulation.settle_of_some hact last hfuel
  | none =>
    have htick : w.manager.tick now = w.manager := by
      unfold act? at hact
      unfold Manager.tick
      split
      · rename_i next hnext
        rw [hnext] at hact
        by_cases hle : next ≤ now
        · simp only [if_pos hle] at hact
          cases hact
        · exact if_neg hle
      · rfl
    rw [htick]
    exact Simulation.settle_of_none hact fuel

/-! ### Time passes -/

theorem nextDue?_of_none (h : w.manager.nextTick = none) :
    (simulation ν α).nextDue? now w = none := by
  show ((w.manager.nextTick.toList).filter (now < ·)).min? = none
  rw [h]
  rfl

theorem nextDue?_of_some {next : Instant} (h : w.manager.nextTick = some next) (hlt : now < next) :
    (simulation ν α).nextDue? now w = some next := by
  show ((w.manager.nextTick.toList).filter (now < ·)).min? = some next
  rw [h]
  simp [hlt]

/-- While time passes the checker looks whenever it is time, and nothing else happens. -/
theorem advance_noted (h : w.manager.AsNoted now notes) (positive : 0 < w.manager.schedule.interval)
    (hfuel : 0 < fuel) (hle : now ≤ target) :
    let later := (simulation ν α).advance fuel now target w
    later.manager.AsNoted target notes ∧ later.manager.encryptor = w.manager.encryptor ∧
      later.manager.schedule = w.manager.schedule ∧ later.answers = w.answers := by
  -- each look brings the present nearer to the target
  induction hleft : target - now using Nat.strongRecOn generalizing now w with
  | ind left ih =>
    by_cases hlook : ∃ next, w.manager.nextTick = some next ∧ next ≤ target
    · obtain ⟨next, hnext, hnear⟩ := hlook
      have hlt : now < next := (h.runs_of_next hnext).2.1
      have htick := Manager.tick_of_next hnext (Nat.le_refl next)
      have hlater := h.look positive hnext
      have hschedule : (w.manager.tick next).schedule = w.manager.schedule := by
        rw [htick]
        exact Manager.check_schedule
      have hencryptor : (w.manager.tick next).encryptor = w.manager.encryptor := by
        rw [htick]
        exact Manager.check_encryptor
      have hcloser : target - next < left := by
        rw [← hleft]
        exact Nat.sub_lt_sub_left (Nat.lt_of_lt_of_le hlt hnear) hlt
      rw [Simulation.advance_of_due (nextDue?_of_some hnext hlt) hlt hnear,
        settle_tick hlater none hfuel]
      have hrest := ih _ hcloser (w := { w with manager := w.manager.tick next }) hlater
        (by rw [hschedule]; exact positive) hnear rfl
      exact ⟨hrest.1, hrest.2.1.trans hencryptor, hrest.2.2.1.trans hschedule, hrest.2.2.2⟩
    · have hfar : ∀ next, w.manager.nextTick = some next → target < next :=
        fun next hnext => Nat.not_le.mp fun hnear => hlook ⟨next, hnext, hnear⟩
      have hidle : ∀ due, (simulation ν α).nextDue? now w = some due → target < due := by
        intro due hdue
        cases hnext : w.manager.nextTick with
        | none =>
          rw [nextDue?_of_none hnext] at hdue
          cases hdue
        | some next =>
          rw [nextDue?_of_some hnext (h.runs_of_next hnext).2.1] at hdue
          obtain rfl := Option.some.inj hdue
          exact hfar next hnext
      rw [Simulation.advance_of_idle hidle]
      exact ⟨h.wait hle hfar, rfl, rfl, rfl⟩

/-! ### The steps of a script -/

/-- A script under way has got as far as its diary says. -/
structure Follows (p : Progress (Watch ν α)) (d : Diary) (schedule : Schedule) : Prop where
  now : p.now = d.now
  encryptor : p.state.manager.encryptor = d.encryptor
  schedule : p.state.manager.schedule = schedule
  noted : p.state.manager.AsNoted d.now d.notes
  /-- Every question was answered when it was asked. -/
  answered : ∀ entry ∈ p.names, (p.state.answers entry.2).isSome

variable {p : Progress (Watch ν α)} {schedule : Schedule}

namespace Follows

/-- A command is carried out at once. -/
theorem take (h : Follows p d schedule) (positive : 0 < schedule.interval) (hfuel : 0 < fuel)
    (command : Command ν α) :
    let later := (simulation ν α).take fuel command.question p
    Follows later (d.record command.deed) schedule ∧ (later.state.answers p.next).isSome := by
  have hlater := h.noted.perform h.encryptor (by rw [h.schedule]; exact positive) command.deed
  obtain ⟨hnoted, henc, hschedule⟩ := hlater
  have hnow : p.now = d.now := h.now
  have hsettle : ((simulation ν α).take fuel command.question p).state =
      { launch p.now p.next command.question p.state with
        manager := (command.deed.perform d.now p.state.manager).tick d.now } := by
    show (simulation ν α).settle (some p.next) p.now fuel (launch p.now p.next command.question p.state) = _
    rw [hnow]
    exact settle_tick hnoted (some p.next) hfuel
  refine ⟨⟨?_, ?_, ?_, ?_, ?_⟩, ?_⟩
  · exact hnow.trans (d.record_now command.deed).symm
  · rw [hsettle]
    exact henc
  · rw [hsettle]
    exact hschedule.trans h.schedule
  · rw [hsettle, Diary.record_now]
    exact hnoted
  · intro entry hmem
    rw [hsettle]
    show ((p.state.answers.set p.next (some _)) entry.2).isSome
    rw [Tasks.set_apply]
    split
    · rfl
    · exact h.answered entry hmem
  · rw [hsettle]
    show ((p.state.answers.set p.next (some _)) p.next).isSome
    rw [Tasks.set_self]
    rfl

/-- Nobody waits for an answer. -/
theorem finish (h : Follows p d schedule) {id : TaskId} (answered : (p.state.answers id).isSome)
    (first : Option TaskId) : Follows ((simulation ν α).finish first fuel id p).1 d schedule := by
  obtain ⟨value, hvalue⟩ := Option.isSome_iff_exists.mp answered
  have hawait : (simulation ν α).await first fuel id fuel p.now p.state = (p.now, p.state) :=
    Simulation.await_of_reply hvalue fuel fuel
  simp only [Simulation.finish, hawait]
  exact h

/-- A task that is picked by its name was answered. -/
theorem pick (h : Follows p d schedule) (name : String) :
    Follows (Simulation.pick name p).2 d schedule ∧
      ∀ id, (Simulation.pick name p).1 = some id →
        ((Simulation.pick name p).2.state.answers id).isSome := by
  refine ⟨⟨h.now, h.encryptor, h.schedule, h.noted, fun entry hmem => ?_⟩, fun id hid => ?_⟩
  · exact h.answered entry (List.mem_of_mem_filter hmem)
  · obtain ⟨before, after, hnames, -⟩ := List.lookup_eq_some_iff.mp hid
    refine h.answered (name, id) ?_
    rw [hnames]
    exact List.mem_append_right _ List.mem_cons_self

/-- One step of a script, before it is reported. -/
theorem perform (h : Follows p d schedule) (positive : 0 < schedule.interval) (hfuel : 0 < fuel)
    (step : Step (Command ν α)) :
    Follows ((simulation ν α).perform fuel p (step.map Command.question)).1 (d.write step) schedule := by
  cases step with
  | wait time =>
    have hpositive : 0 < p.state.manager.schedule.interval := by
      rw [h.schedule]
      exact positive
    obtain ⟨hnoted, henc, hschedule, hanswers⟩ :=
      advance_noted h.noted hpositive hfuel (Nat.le_add_right d.now time)
    rw [← h.now] at hnoted henc hschedule hanswers
    refine ⟨congrArg (· + time) h.now, henc.trans h.encryptor, hschedule.trans h.schedule, ?_, ?_⟩
    · show Manager.AsNoted _ (d.now + time) d.notes
      rw [← h.now]
      exact hnoted
    · intro entry hmem
      show (((simulation ν α).advance fuel p.now (p.now + time) p.state).answers entry.2).isSome
      rw [hanswers]
      exact h.answered entry hmem
  | perform command =>
    obtain ⟨hlater, answered⟩ := h.take positive hfuel command
    exact hlater.finish answered (some p.next)
  | spawn name command =>
    -- the name is given before the answer is there, but nobody looks in between
    obtain ⟨hlater, answered⟩ := h.take positive hfuel command
    refine ⟨hlater.now, hlater.encryptor, hlater.schedule, hlater.noted, fun entry hmem => ?_⟩
    rcases List.mem_cons.mp hmem with rfl | hmem
    · exact answered
    · exact hlater.answered entry hmem
  | join name =>
    obtain ⟨hpicked, answered⟩ := h.pick name
    simp only [Step.map, Simulation.perform]
    split
    · rename_i id q hpick
      rw [hpick] at hpicked answered
      exact hpicked.finish (answered id rfl) none
    · rename_i q hpick
      rw [hpick] at hpicked
      exact hpicked
  | abort name =>
    obtain ⟨hpicked, answered⟩ := h.pick name
    simp only [Step.map, Simulation.perform]
    split
    · rename_i id q hpick
      rw [hpick] at hpicked answered
      obtain ⟨value, hvalue⟩ := Option.isSome_iff_exists.mp (answered id rfl)
      have hreply : (simulation ν α).reply? q.state id = some value := hvalue
      simp only [hreply]
      exact hpicked
    · rename_i q hpick
      rw [hpick] at hpicked
      exact hpicked

/-- One step of a script, with its entry. -/
theorem enter (h : Follows p d schedule) (positive : 0 < schedule.interval) (hfuel : 0 < fuel)
    (step : Step (Command ν α)) :
    let (later, entry) := (simulation ν α).enter fuel p (step.map Command.question)
    Follows later (d.write step) schedule ∧ entry.time = (d.write step).now ∧
      entry.report.AsNoted (d.write step).now (d.write step).notes ∧
      entry.report.schedule = schedule := by
  have hlater := h.perform positive hfuel step
  refine ⟨⟨hlater.now, hlater.encryptor, hlater.schedule, ?_, hlater.answered⟩, hlater.now,
    hlater.noted, hlater.schedule⟩
  -- the report only forgets what was announced
  exact hlater.noted.congr rfl rfl rfl rfl

/-- A whole script. -/
theorem progress (h : Follows p d schedule) (positive : 0 < schedule.interval) (hfuel : 0 < fuel)
    (script : List (Step (Command ν α))) :
    Follows ((simulation ν α).progress fuel p (script.map (Step.map Command.question)))
      (script.foldl Diary.write d) schedule := by
  induction script generalizing p d with
  | nil => exact h
  | cons step script ih => exact ih (h.enter positive hfuel step).1

end Follows

/-- A new manager is as nothing says. -/
theorem follows_start (e : Field.Encryptor) (schedule : Schedule) (notes : ν) :
    Follows { state := (⟨Manager.start e schedule 0, notes, fun _ => none⟩ : Watch ν α) }
      { encryptor := e } schedule where
  now := rfl
  encryptor := rfl
  schedule := rfl
  noted :=
    { past := fun _ hmem => absurd hmem List.not_mem_nil
      lastRotation := rfl
      latest := fun _ hmem => absurd hmem List.not_mem_nil
      rests := fun _ => rfl
      runs := fun hruns => (by cases hruns)
      due := by
        refine ⟨fun hdue => (by cases hdue), ?_⟩
        rintro ⟨since, tick, ⟨start, count, ⟨before, hnil, -⟩, -⟩, -⟩
        exact absurd hnil (by simp) }
  answered _ hmem := absurd hmem List.not_mem_nil

/-! ### Whole scripts -/

/-- The entries for a script of commands to a new manager. -/
def run (e : Field.Encryptor) (schedule : Schedule) (notes : ν) (script : List (Step (Command ν α))) :
    List (Simulation.Entry α Manager) :=
  (simulation ν α).run ⟨Manager.start e schedule 0, notes, fun _ => none⟩
    (script.map (Step.map Command.question))

/-- The entry of a step is made by its diary. -/
theorem run_getElem? (e : Field.Encryptor) {schedule : Schedule} (notes : ν)
    (positive : 0 < schedule.interval) (script : List (Step (Command ν α))) {i : Nat}
    (hi : i < script.length) :
    ∃ entry, (run e schedule notes script)[i]? = some entry ∧
      entry.time = (Diary.ofScript e (script.take (i + 1))).now ∧
      entry.report.AsNoted entry.time (Diary.ofScript e (script.take (i + 1))).notes ∧
      entry.report.schedule = schedule := by
  have hfuel : 0 < Simulation.patience (script.map (Step.map Command.question)).length := by
    exact Simulation.patience_pos _
  have hbefore := (follows_start (α := α) e schedule notes).progress positive hfuel (script.take i)
  have hentry := hbefore.enter positive hfuel script[i]
  have hdiary : Diary.ofScript e (script.take (i + 1)) =
      Diary.write ((script.take i).foldl Diary.write { encryptor := e }) script[i] := by
    rw [Diary.ofScript, ← List.take_append_getElem hi, List.foldl_append]
    rfl
  refine ⟨_, ?_, hentry.2.1.trans (congrArg Diary.now hdiary.symm), ?_, hentry.2.2.2⟩
  · rw [run, Simulation.run, Simulation.entries_getElem?, List.getElem?_map,
      List.getElem?_eq_getElem hi, ← List.map_take]
    rfl
  · rw [hentry.2.1, hdiary]
    exact hentry.2.2.1

/-- **The published value is exact.**  However a manager is used along the clock, at each step the value
that is published says that a key change is due if and only if the checker, started by a start that found it
at rest and not stopped before, has looked since the last key change at a key of full age.  So what is
published as due is due, no look ever takes that back, and a checker that runs has noticed at the latest one
interval after the key was of full age. -/
theorem signal_exact (e : Field.Encryptor) (schedule : Schedule) (positive : 0 < schedule.interval)
    (notes : ν) (script : List (Step (Command ν α))) (i : Nat) (hi : i < script.length) :
    ∃ entry, (run e schedule notes script)[i]? = some entry ∧
      let m := entry.report
      let diary := Diary.ofScript e (script.take (i + 1))
      entry.time = diary.now ∧ m.lastRotation = diary.notes.rotatedAt ∧
      m.isRunning = diary.notes.runs ∧
      (m.due = true ↔ diary.notes.HasLateLook schedule entry.time) ∧
      (m.due = true → m.isDue entry.time = true) ∧
      (∀ looks look, (entry.time :: looks ++ [look]).Pairwise (· ≤ ·) →
        ((looks.foldl Manager.check m).check look).due = false →
          (looks.foldl Manager.check m).check look = looks.foldl Manager.check m) ∧
      (m.isRunning = true → schedule.period + schedule.interval ≤ m.age entry.time →
        m.due = true) := by
  obtain ⟨entry, hentry, htime, hnoted, rfl⟩ := run_getElem? e notes positive script hi
  refine ⟨entry, hentry, htime, hnoted.lastRotation, hnoted.isRunning, hnoted.due, hnoted.isDue, ?_,
    hnoted.due_of_age⟩
  exact fun looks look => Manager.checks_of_due hnoted.isDue looks look

/-- A checker that looks every 4 nanoseconds at a key to be changed after 10, with a second start, a change
that is refused and one that is not, and a stop. -/
theorem signal_exact_across_rotation :
    let key := (Field.Key.ofNat 8).toBase64
    let e : Field.Encryptor := ⟨⟨[(1, .ofNat 7)], 1⟩, []⟩
    let schedule : Schedule := ⟨10, 4⟩
    let ask (deed : Deed) : Step (Command Unit Unit) := .perform ⟨deed, fun _ _ _ => ((), ())⟩
    let script := [ask .start, .wait 3, ask .start, .wait 6, ask (.rotate "no key"), .wait 3,
      ask (.rotate key), .wait 10, ask .stop, .wait 5, ask .start]
    0 < schedule.interval ∧ ∃ due young missed seen,
      (run e schedule () script)[5]? = some due ∧ due.report.due = true ∧
      (run e schedule () script)[6]? = some young ∧ young.report.lastRotation = 12 ∧
      (run e schedule () script)[7]? = some missed ∧ missed.time = 22 ∧ missed.report.due = false ∧
      (run e schedule () script)[10]? = some seen ∧ seen.time = 27 ∧ seen.report.due = true := by
  intro key e schedule ask script
  have positive : 0 < schedule.interval := by decide
  have notes : (Diary.ofScript e (script.take 6)).notes = [(3, .started), (0, .started)] ∧
      (Diary.ofScript e (script.take 7)).notes = [(12, .rotated), (3, .started), (0, .started)] ∧
      (Diary.ofScript e (script.take 8)).notes = [(12, .rotated), (3, .started), (0, .started)] ∧
      (Diary.ofScript e (script.take 11)).notes = [(27, .started), (22, .stopped), (12, .rotated),
        (3, .started), (0, .started)] := by decide +kernel
  have times : (Diary.ofScript e (script.take 6)).now = 12 ∧ (Diary.ofScript e (script.take 8)).now = 22 ∧
      (Diary.ofScript e (script.take 11)).now = 27 := by decide +kernel
  obtain ⟨due, hdue, duetime, -, -, duelook, -⟩ := signal_exact e schedule positive () script 5 (by decide)
  obtain ⟨young, hyoung, -, rotation, -⟩ := signal_exact e schedule positive () script 6 (by decide)
  obtain ⟨missed, hmissed, missedtime, -, -, missedlook, -⟩ :=
    signal_exact e schedule positive () script 7 (by decide)
  obtain ⟨seen, hseen, seentime, -, -, seenlook, -⟩ :=
    signal_exact e schedule positive () script 10 (by decide)
  rw [times.1] at duetime
  rw [times.2.1] at missedtime
  rw [times.2.2] at seentime
  rw [notes.1, duetime] at duelook
  rw [notes.2.1] at rotation
  rw [notes.2.2.1, missedtime] at missedlook
  rw [notes.2.2.2, seentime] at seenlook
  refine ⟨positive, due, young, missed, seen, hdue, duelook.mpr ?_, hyoung, rotation, hmissed, missedtime,
    ?_, hseen, seentime, seenlook.mpr ?_⟩
  · -- the third look after the start at 0
    exact ⟨[(3, .started)], 12, ⟨0, 3, ⟨[], rfl, rfl⟩, rfl, by simp⟩, by decide, by simp, by decide⟩
  · -- the last look before 22 is at 20
    rw [Bool.eq_false_iff, Ne, missedlook]
    rintro ⟨since, tick, ⟨start, count, hstart, rfl, -⟩, hnow, -, hlate⟩
    have hzero : start = 0 := by
      rcases Chronicle.startsAt_cons.mp hstart with ⟨heq, -, -⟩ | ⟨rest, -, hstart⟩
      · cases heq
      rcases Chronicle.startsAt_cons.mp hstart with ⟨-, -, hrests⟩ | ⟨rest, -, hstart⟩
      · cases hrests
      rcases Chronicle.startsAt_cons.mp hstart with ⟨heq, -, -⟩ | ⟨rest, -, before, hnil, -⟩
      · exact (congrArg Prod.fst heq).symm
      · exact absurd hnil (by simp)
    rw [hzero] at hnow hlate
    have hafter : 22 ≤ 0 + count * 4 := hlate
    have hbefore : 0 + count * 4 ≤ 22 := hnow
    omega
  · exact ⟨[], 27, ⟨27, 0, ⟨_, rfl, rfl⟩, rfl, by simp⟩, by decide, by simp, by decide⟩

end Watch

end ProfileGuard.Rotation
