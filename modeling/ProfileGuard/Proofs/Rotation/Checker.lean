import Mathlib.Data.List.Basic
import ProfileGuard.Proofs.Rotation.Chronicle

/-!
# A manager is as its notes say

Once everything that was due has happened, the notes determine the age of the key, whether the checker runs
and when it looks next, and what was published.  Each of the ways in which a manager and its notes go on keeps
this: time passes without a look, the checker looks, the key is changed, the checker is started or stopped.

* **`Rotation.Manager.AsNoted`** — what the notes determine.
* **`Rotation.Manager.AsNoted.wait`** / **`Rotation.Manager.AsNoted.look`** — time passes up to the next look,
  and the look itself.
* **`Rotation.Manager.AsNoted.rotated`**, **`started`**, **`startedAtRest`**, **`stopped`** — a further note.
* **`Rotation.Manager.AsNoted.due_of_age`** — a checker that runs does not miss an old key.
* **`Rotation.Manager.check_of_due`** — a look takes nothing back.
-/

namespace ProfileGuard.Rotation.Manager

/-- A manager at an instant is as its notes say. -/
structure AsNoted (m : Manager) (now : Instant) (notes : Chronicle) : Prop where
  past : ∀ entry ∈ notes, entry.1 ≤ now
  lastRotation : m.lastRotation = notes.rotatedAt
  latest : ∀ time, (time, .rotated) ∈ notes → time ≤ notes.rotatedAt
  rests : notes.runs = false → m.nextTick = none
  /-- The next look is the first one after the present, as counted from the start of the checker. -/
  runs : notes.runs = true → ∃ next, m.nextTick = some next ∧ now < next ∧
    ∀ start since, notes.StartsAt start since → (∀ stop, (stop, .stopped) ∉ since) →
      ∃ count : Nat, next = start + (count + 1) * m.schedule.interval ∧
        start + count * m.schedule.interval ≤ now
  due : m.due = true ↔ notes.HasLateLook m.schedule now

variable {m later : Manager} {now target next : Instant} {notes : Chronicle}

/-! ### What is published -/

theorem isDue_iff : m.isDue now = true ↔ m.schedule.period ≤ now - m.lastRotation := by
  rw [isDue, age, decide_eq_true_iff]

/-- A key is of full age once the period has passed since its change. -/
theorem isDue_iff_le (h : m.lastRotation ≤ now) :
    m.isDue now = true ↔ m.lastRotation + m.schedule.period ≤ now := by
  rw [isDue_iff]
  exact Nat.le_sub_iff_add_le' h

@[simp]
theorem check_due : (m.check now).due = m.isDue now := by
  unfold check
  split
  · rename_i h
    exact h.symm
  · rfl

@[simp]
theorem check_schedule : (m.check now).schedule = m.schedule := by
  unfold check
  split <;> rfl

@[simp]
theorem check_lastRotation : (m.check now).lastRotation = m.lastRotation := by
  unfold check
  split <;> rfl

@[simp]
theorem check_encryptor : (m.check now).encryptor = m.encryptor := by
  unfold check
  split <;> rfl

/-- A look that is due sets the next one. -/
theorem tick_of_next (hnext : m.nextTick = some next) (hle : next ≤ now) :
    m.tick now = { m.check now with nextTick := some (next + m.schedule.interval) } := by
  rw [tick, hnext]
  exact if_pos hle

/-- Keys do not get younger. -/
theorem isDue_mono (hle : now ≤ target) (h : m.isDue now = true) : m.isDue target = true := by
  rw [isDue_iff] at h ⊢
  exact Nat.le_trans h (Nat.sub_le_sub_right hle _)

/-- A look at a key that was of full age when this was published takes nothing back. -/
theorem check_of_due (backed : m.due = true → m.isDue now = true) (hle : now ≤ target)
    (h : (m.check target).due = false) : m.check target = m := by
  rw [check_due] at h
  unfold check
  rw [if_pos]
  cases hdue : m.due with
  | false => exact h
  | true => rw [isDue_mono hle (backed hdue)] at h; cases h

/-- No look of a whole series takes anything back. -/
theorem checks_of_due (backed : m.due = true → m.isDue now = true) (looks : List Instant) (look : Instant)
    (ascending : (now :: looks ++ [look]).Pairwise (· ≤ ·))
    (h : ((looks.foldl check m).check look).due = false) :
    (looks.foldl check m).check look = looks.foldl check m := by
  induction looks generalizing m now with
  | nil =>
    refine check_of_due backed ?_ h
    exact List.rel_of_pairwise_cons ascending List.mem_cons_self
  | cons first looks ih =>
    refine ih (fun hdue => ?_) (List.Pairwise.of_cons ascending) h
    rw [check_due] at hdue
    rw [isDue, age, check_schedule, check_lastRotation]
    exact hdue

namespace AsNoted

/-! ### Time passes -/

theorem lastRotation_le (h : m.AsNoted now notes) : m.lastRotation ≤ now := by
  rw [h.lastRotation]
  exact Chronicle.rotatedAt_le h.past

/-- What is published as due is due. -/
theorem isDue (h : m.AsNoted now notes) (hdue : m.due = true) : m.isDue now = true := by
  obtain ⟨since, tick, -, hnow, -, hlate⟩ := h.due.mp hdue
  rw [isDue_iff_le h.lastRotation_le, h.lastRotation]
  exact Nat.le_trans hlate hnow

/-- The manager's checker runs if the notes say so. -/
theorem isRunning (h : m.AsNoted now notes) : m.isRunning = notes.runs := by
  unfold Manager.isRunning
  cases hruns : notes.runs with
  | false => rw [h.rests hruns]; rfl
  | true =>
    obtain ⟨next, hnext, -⟩ := h.runs hruns
    rw [hnext]
    rfl

/-- Where a next look is set, the checker runs, and that look is the first one to come. -/
theorem runs_of_next (h : m.AsNoted now notes) (hnext : m.nextTick = some next) :
    notes.runs = true ∧ now < next ∧
      ∀ start since, notes.StartsAt start since → (∀ stop, (stop, .stopped) ∉ since) →
        ∃ count : Nat, next = start + (count + 1) * m.schedule.interval ∧
          start + count * m.schedule.interval ≤ now := by
  have hruns : notes.runs = true := by
    rw [← h.isRunning, Manager.isRunning, hnext]
    rfl
  obtain ⟨next', hnext', hlt, hcount⟩ := h.runs hruns
  obtain rfl : next' = next := Option.some.inj (hnext'.symm.trans hnext)
  exact ⟨hruns, hlt, hcount⟩

/-- No look comes between the present and the next one. -/
theorem next_le (h : m.AsNoted now notes) (hnext : m.nextTick = some next) {start : Instant}
    {since : Chronicle} {count : Nat} (hstart : notes.StartsAt start since)
    (unstopped : ∀ stop, (stop, .stopped) ∉ since)
    (hafter : now < start + count * m.schedule.interval) :
    next ≤ start + count * m.schedule.interval := by
  obtain ⟨-, -, hcount⟩ := h.runs_of_next hnext
  obtain ⟨last, rfl, hlast⟩ := hcount start since hstart unstopped
  have hlt : last < count :=
    Nat.lt_of_mul_lt_mul_right (Nat.lt_of_add_lt_add_left (Nat.lt_of_le_of_lt hlast hafter))
  exact Nat.add_le_add_left (Nat.mul_le_mul_right _ (Nat.succ_le_of_lt hlt)) start

/-- Time passes before the next look. -/
theorem wait (h : m.AsNoted now notes) (hle : now ≤ target)
    (before : ∀ next, m.nextTick = some next → target < next) : m.AsNoted target notes where
  past entry hmem := Nat.le_trans (h.past entry hmem) hle
  lastRotation := h.lastRotation
  latest := h.latest
  rests := h.rests
  runs hruns := by
    obtain ⟨next, hnext, -, hcount⟩ := h.runs hruns
    refine ⟨next, hnext, before next hnext, fun start since hstart unstopped => ?_⟩
    obtain ⟨count, heq, hlast⟩ := hcount start since hstart unstopped
    exact ⟨count, heq, Nat.le_trans hlast hle⟩
  due := by
    rw [h.due, Chronicle.hasLateLook_later h.past hle]
    refine ⟨.inl, ?_⟩
    rintro (hlate | ⟨start, since, count, hstart, unstopped, hafter, htarget, -⟩)
    · exact hlate
    · obtain ⟨next, hnext, -⟩ := h.runs (hstart.runs unstopped)
      have hlook := h.next_le hnext hstart unstopped hafter
      exact absurd (before next hnext) (Nat.not_lt.mpr (Nat.le_trans hlook htarget))

/-- The checker looks. -/
theorem look (h : m.AsNoted now notes) (positive : 0 < m.schedule.interval)
    (hnext : m.nextTick = some next) : (m.tick next).AsNoted next notes := by
  obtain ⟨hruns, hlt, hcount⟩ := h.runs_of_next hnext
  have hle : now ≤ next := Nat.le_of_lt hlt
  rw [tick_of_next hnext (Nat.le_refl next)]
  refine ⟨fun entry hmem => Nat.le_trans (h.past entry hmem) hle, ?_, h.latest, ?_, fun _ => ?_, ?_⟩
  · exact check_lastRotation.trans h.lastRotation
  · intro hrests
    rw [hruns] at hrests
    cases hrests
  · refine ⟨next + m.schedule.interval, rfl, Nat.lt_add_of_pos_right positive, ?_⟩
    intro start since hstart unstopped
    obtain ⟨count, heq, -⟩ := hcount start since hstart unstopped
    rw [check_schedule]
    refine ⟨count + 1, ?_, Nat.le_of_eq heq.symm⟩
    rw [heq, Nat.add_assoc, ← Nat.succ_mul]
  · -- the look itself decides what is published
    show (m.check next).due = true ↔ notes.HasLateLook (m.check next).schedule next
    rw [check_due, isDue_iff_le (Nat.le_trans h.lastRotation_le hle), h.lastRotation, check_schedule,
      Chronicle.hasLateLook_later h.past hle]
    constructor
    · intro hlate
      obtain ⟨start, since, hstart, unstopped⟩ := Chronicle.exists_startsAt hruns
      obtain ⟨count, heq, -⟩ := hcount start since hstart unstopped
      refine .inr ⟨start, since, count + 1, hstart, unstopped, ?_⟩
      rw [← heq]
      exact ⟨hlt, Nat.le_refl next, hlate⟩
    · rintro (⟨_, tick, _, hnow, _, hlate⟩ | ⟨_, _, _, _, _, _, htarget, hlate⟩)
      · exact Nat.le_trans hlate (Nat.le_trans hnow hle)
      · exact Nat.le_trans hlate htarget

/-! ### A further note -/

theorem past_cons (h : m.AsNoted now notes) (note : Note) :
    ∀ entry ∈ (now, note) :: notes, entry.1 ≤ now := by
  intro entry hmem
  rcases List.mem_cons.mp hmem with rfl | hmem
  · exact Nat.le_refl now
  · exact h.past entry hmem

/-- A note other than a key change leaves the key changes as they are. -/
theorem latest_cons (h : m.AsNoted now notes) {note : Note} (hnote : note ≠ .rotated) :
    ∀ time, (time, .rotated) ∈ (now, note) :: notes →
      time ≤ Chronicle.rotatedAt ((now, note) :: notes) := by
  intro time hmem
  rw [Chronicle.rotatedAt_cons hnote]
  rcases List.mem_cons.mp hmem with heq | hmem
  · exact absurd (congrArg Prod.snd heq).symm hnote
  · exact h.latest time hmem

/-- No note moves the next look of a checker that runs. -/
theorem runs_cons (h : m.AsNoted now notes) (note : Note) (hruns : notes.runs = true) :
    ∃ next, m.nextTick = some next ∧ now < next ∧
      ∀ start since, Chronicle.StartsAt ((now, note) :: notes) start since →
        (∀ stop, (stop, .stopped) ∉ since) →
        ∃ count : Nat, next = start + (count + 1) * m.schedule.interval ∧
          start + count * m.schedule.interval ≤ now := by
  obtain ⟨next, hnext, hlt, hcount⟩ := h.runs hruns
  refine ⟨next, hnext, hlt, fun start since hsince unstopped => ?_⟩
  rcases Chronicle.startsAt_cons.mp hsince with ⟨heq, -, hrests⟩ | ⟨rest, rfl, hrest⟩
  · rw [hruns] at hrests
    cases hrests
  · exact hcount start rest hrest fun stop hmem => unstopped stop (List.mem_cons_of_mem _ hmem)

/-- The key is changed: the manager later has the new key's age and publishes that nothing is due. -/
theorem rotated (h : m.AsNoted now notes) (hrotation : later.lastRotation = now)
    (hdue : later.due = false) (hschedule : later.schedule = m.schedule)
    (hnext : later.nextTick = m.nextTick) : later.AsNoted now ((now, .rotated) :: notes) where
  past := h.past_cons .rotated
  lastRotation := hrotation
  latest time hmem := h.past_cons .rotated (time, .rotated) hmem
  rests hrests := hnext.trans (h.rests hrests)
  runs hruns := by
    rw [hnext, hschedule]
    exact h.runs_cons .rotated hruns
  due := by
    rw [hdue]
    exact ⟨fun h => (by cases h), fun h => absurd h Chronicle.not_hasLateLook_rotated⟩

/-- A checker that runs is asked to start. -/
theorem started (h : m.AsNoted now notes) (hruns : notes.runs = true) :
    (m.startChecker now).AsNoted now ((now, .started) :: notes) := by
  have hsame : m.startChecker now = m := by
    obtain ⟨next, hnext, -⟩ := h.runs hruns
    rw [startChecker, hnext]
    show { m with nextTick := some next } = m
    rw [← hnext]
  rw [hsame]
  refine ⟨h.past_cons .started, ?_, h.latest_cons (by simp), fun hrests => (by cases hrests),
    fun _ => h.runs_cons .started hruns, ?_⟩
  · rw [Chronicle.rotatedAt_cons (by simp)]
    exact h.lastRotation
  · rw [Chronicle.hasLateLook_cons (by simp), h.due, hruns]
    simp only [Bool.true_eq_false, false_and, and_false, or_false]

/-- A checker at rest is asked to start, and looks at once. -/
theorem startedAtRest (h : m.AsNoted now notes) (positive : 0 < m.schedule.interval)
    (hrests : notes.runs = false) :
    ((m.startChecker now).tick now).AsNoted now ((now, .started) :: notes) := by
  have hnext : (m.startChecker now).nextTick = some now := by
    rw [startChecker, h.rests hrests]
    rfl
  rw [tick_of_next hnext (Nat.le_refl now)]
  refine ⟨h.past_cons .started, ?_, h.latest_cons (by simp), fun hrests => (by cases hrests),
    fun _ => ?_, ?_⟩
  · rw [Chronicle.rotatedAt_cons (by simp)]
    exact check_lastRotation.trans h.lastRotation
  · refine ⟨now + m.schedule.interval, rfl, Nat.lt_add_of_pos_right positive, ?_⟩
    intro start since hsince unstopped
    rcases Chronicle.startsAt_cons.mp hsince with ⟨heq, -, -⟩ | ⟨rest, rfl, hrest⟩
    · obtain rfl : now = start := congrArg Prod.fst heq
      rw [check_schedule]
      exact ⟨0, by rw [Nat.one_mul]; rfl, by simp⟩
    · have hruns := hrest.runs fun stop hmem => unstopped stop (List.mem_cons_of_mem _ hmem)
      rw [hrests] at hruns
      cases hruns
  · show ((m.startChecker now).check now).due = true ↔
      Chronicle.HasLateLook _ ((m.startChecker now).check now).schedule now
    rw [check_due, check_schedule, Chronicle.hasLateLook_cons (by simp)]
    show m.isDue now = true ↔ _ ∨ _ ∧ _ ∧ notes.rotatedAt + m.schedule.period ≤ now
    rw [isDue_iff_le h.lastRotation_le, h.lastRotation]
    constructor
    · exact fun hlate => .inr ⟨rfl, hrests, hlate⟩
    · rintro (⟨_, tick, _, hnow, _, hlate⟩ | ⟨-, -, hlate⟩)
      · exact Nat.le_trans hlate hnow
      · exact hlate

/-- The checker is asked to stop. -/
theorem stopped (h : m.AsNoted now notes) :
    m.stopChecker.AsNoted now ((now, .stopped) :: notes) where
  past := h.past_cons .stopped
  lastRotation := by
    rw [Chronicle.rotatedAt_cons (by simp)]
    exact h.lastRotation
  latest := h.latest_cons (by simp)
  rests _ := rfl
  runs hruns := by cases hruns
  due := by
    rw [Chronicle.hasLateLook_cons (by simp)]
    show m.due = true ↔ notes.HasLateLook m.schedule now ∨ _
    rw [h.due]
    simp only [reduceCtorEq, false_and, or_false]

/-- Nothing that bears on the notes changes. -/
theorem congr (h : m.AsNoted now notes) (hrotation : later.lastRotation = m.lastRotation)
    (hdue : later.due = m.due) (hschedule : later.schedule = m.schedule)
    (hnext : later.nextTick = m.nextTick) : later.AsNoted now notes where
  past := h.past
  lastRotation := hrotation.trans h.lastRotation
  latest := h.latest
  rests hrests := hnext.trans (h.rests hrests)
  runs hruns := by
    rw [hnext, hschedule]
    exact h.runs hruns
  due := by
    rw [hdue, hschedule]
    exact h.due

/-- A checker that runs has looked within the last interval, so it has seen a key that was of full age an
interval ago. -/
theorem due_of_age (h : m.AsNoted now notes) (hrunning : m.isRunning = true)
    (hage : m.schedule.period + m.schedule.interval ≤ m.age now) : m.due = true := by
  obtain ⟨next, hnext⟩ := Option.isSome_iff_exists.mp hrunning
  obtain ⟨hruns, hlt, hcount⟩ := h.runs_of_next hnext
  obtain ⟨start, since, hstart, unstopped⟩ := Chronicle.exists_startsAt hruns
  obtain ⟨count, rfl, hlast⟩ := hcount start since hstart unstopped
  have hlate : notes.rotatedAt + m.schedule.period < start + count * m.schedule.interval := by
    rw [age, h.lastRotation, Nat.le_sub_iff_add_le' (Chronicle.rotatedAt_le h.past), ← Nat.add_assoc]
      at hage
    rw [Nat.succ_mul, ← Nat.add_assoc] at hlt
    exact Nat.lt_of_add_lt_add_right (Nat.lt_of_le_of_lt hage hlt)
  rw [h.due]
  refine ⟨since, _, ⟨start, count, hstart, rfl, ?_⟩, hlast, fun time htime => ?_, Nat.le_of_lt hlate⟩
  · exact fun stop hstop => absurd hstop (unstopped stop)
  · obtain ⟨before, rfl, -⟩ := hstart
    have hle := h.latest time (List.mem_append_left _ htime)
    exact Nat.lt_of_le_of_lt (Nat.le_trans hle (Nat.le_add_right _ _)) hlate

end AsNoted

end ProfileGuard.Rotation.Manager
