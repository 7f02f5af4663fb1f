import ProfileGuard.Rotation.Manager

/-!
# What is noted about a manager, and when its checker looks

Key changes, starts and stops of the checker are noted with their instants.  From these notes alone it
follows when the checker looks: at a start that finds it at rest, and then after every interval up to the next
stop.  Neither a start of a checker that runs nor a stop of one that rests disturbs that.

* **`Rotation.Chronicle`** — the notes, the latest first.
* **`Rotation.Chronicle.StartsAt`** — a start that found the checker at rest.
* **`Rotation.Chronicle.Looks`** — the instants at which the checker looks.
* **`Rotation.Chronicle.HasLateLook`** — it has looked since the last key change, and late enough.
* **`Rotation.Chronicle.hasLateLook_cons`** / **`Rotation.Chronicle.hasLateLook_later`** — what a note and what
  time add to that.
-/

namespace ProfileGuard.Rotation

/-- Something that is noted about a manager. -/
inductive Note where
  /-- The key was changed. -/
  | rotated
  /-- The checker was asked to start, and to stop. -/
  | started
  | stopped
  deriving DecidableEq

/-- Notes with their instants, the latest first. -/
abbrev Chronicle := List (Instant × Note)

namespace Chronicle

/-- Whether the checker runs. -/
def runs : Chronicle → Bool
  | [] => false
  | (_, .started) :: _ => true
  | (_, .stopped) :: _ => false
  | (_, .rotated) :: notes => runs notes

/-- When the key was changed last; before the first change, when the clock started. -/
def rotatedAt : Chronicle → Instant
  | [] => 0
  | (time, .rotated) :: _ => time
  | (_, .started) :: notes | (_, .stopped) :: notes => rotatedAt notes

/-- A start that found the checker at rest, with what was noted since. -/
def StartsAt (notes : Chronicle) (start : Instant) (since : Chronicle) : Prop :=
  ∃ before, notes = since ++ (start, .started) :: before ∧ runs before = false

/-- The checker looks at an instant: a whole number of intervals after a start that found it at rest, and no
later than a stop noted since. -/
def Looks (notes : Chronicle) (interval : Duration) (since : Chronicle) (tick : Instant) : Prop :=
  ∃ (start : Instant) (count : Nat), notes.StartsAt start since ∧ tick = start + count * interval ∧
    ∀ stop, (stop, .stopped) ∈ since → tick ≤ stop

/-- Up to an instant the checker has looked, after the last key change, at a key of full age.  A look at the
very instant of a key change came before the change. -/
def HasLateLook (notes : Chronicle) (schedule : Schedule) (now : Instant) : Prop :=
  ∃ since tick, notes.Looks schedule.interval since tick ∧ tick ≤ now ∧
    (∀ time, (time, .rotated) ∈ since → time < tick) ∧ notes.rotatedAt + schedule.period ≤ tick

variable {notes since : Chronicle} {start now target : Instant} {note : Note} {schedule : Schedule}

/-! ### Starts -/

theorem startsAt_cons {entry : Instant × Note} :
    StartsAt (entry :: notes) start since ↔
      (entry = (start, .started) ∧ since = [] ∧ notes.runs = false) ∨
        ∃ rest, since = entry :: rest ∧ notes.StartsAt start rest := by
  constructor
  · rintro ⟨before, hnotes, hbefore⟩
    cases since with
    | nil =>
      obtain ⟨rfl, rfl⟩ := List.cons.inj hnotes
      exact .inl ⟨rfl, rfl, hbefore⟩
    | cons first rest =>
      obtain ⟨rfl, hrest⟩ := List.cons.inj hnotes
      exact .inr ⟨rest, rfl, before, hrest, hbefore⟩
  · rintro (⟨rfl, rfl, hrests⟩ | ⟨rest, rfl, before, rfl, hbefore⟩)
    · exact ⟨notes, rfl, hrests⟩
    · exact ⟨before, rfl, hbefore⟩

/-- A checker that was started and not stopped since runs. -/
theorem StartsAt.runs (h : notes.StartsAt start since) (unstopped : ∀ stop, (stop, .stopped) ∉ since) :
    notes.runs = true := by
  obtain ⟨before, rfl, -⟩ := h
  induction since with
  | nil => rfl
  | cons entry since ih =>
    obtain ⟨time, note⟩ := entry
    cases note with
    | started => rfl
    | stopped => exact absurd List.mem_cons_self (unstopped time)
    | rotated => exact ih fun stop h => unstopped stop (List.mem_cons_of_mem _ h)

/-- A checker that runs was started at rest and not stopped since. -/
theorem exists_startsAt (h : notes.runs = true) :
    ∃ start since, notes.StartsAt start since ∧ ∀ stop, (stop, .stopped) ∉ since := by
  induction notes with
  | nil => cases h
  | cons entry notes ih =>
    obtain ⟨time, note⟩ := entry
    have older (hnotes : Chronicle.runs notes = true) (hnote : note ≠ .stopped) :
        ∃ start since, StartsAt ((time, note) :: notes) start since ∧
          ∀ stop, (stop, .stopped) ∉ since := by
      obtain ⟨start, since, hstart, unstopped⟩ := ih hnotes
      refine ⟨start, (time, note) :: since, startsAt_cons.mpr (.inr ⟨since, rfl, hstart⟩), ?_⟩
      intro stop hstop
      rcases List.mem_cons.mp hstop with heq | hmem
      · exact hnote (congrArg Prod.snd heq).symm
      · exact unstopped stop hmem
    cases note with
    | rotated => exact older h (by simp)
    | stopped => cases h
    | started =>
      cases hnotes : Chronicle.runs notes with
      | true => exact older hnotes (by simp)
      | false => exact ⟨time, [], startsAt_cons.mpr (.inl ⟨rfl, rfl, hnotes⟩), by simp⟩

/-! ### Key changes -/

theorem rotatedAt_cons (h : note ≠ .rotated) (time : Instant) :
    rotatedAt ((time, note) :: notes) = notes.rotatedAt := by
  cases note with
  | rotated => exact absurd rfl h
  | started | stopped => rfl

theorem rotatedAt_le (past : ∀ entry ∈ notes, entry.1 ≤ now) : notes.rotatedAt ≤ now := by
  induction notes with
  | nil => exact Nat.zero_le now
  | cons entry notes ih =>
    obtain ⟨time, note⟩ := entry
    cases note with
    | rotated => exact past _ List.mem_cons_self
    | started | stopped => exact ih fun entry h => past entry (List.mem_cons_of_mem _ h)

/-! ### Late looks -/

/-- Right after a key change there is no look that came after it. -/
theorem not_hasLateLook_rotated : ¬ HasLateLook ((now, .rotated) :: notes) schedule now := by
  rintro ⟨since, tick, ⟨start, count, hstart, -, -⟩, hnow, hsince, -⟩
  rcases startsAt_cons.mp hstart with ⟨heq, -, -⟩ | ⟨rest, rfl, -⟩
  · cases heq
  · exact absurd (hsince now List.mem_cons_self) (Nat.not_lt.mpr hnow)

/-- Only a start at rest brings a look at once. -/
theorem hasLateLook_cons (h : note ≠ .rotated) :
    HasLateLook ((now, note) :: notes) schedule now ↔
      notes.HasLateLook schedule now ∨
        note = .started ∧ notes.runs = false ∧ notes.rotatedAt + schedule.period ≤ now := by
  constructor
  · rintro ⟨since, tick, ⟨start, count, hstart, htick, hstops⟩, hnow, hsince, hlate⟩
    rw [rotatedAt_cons h] at hlate
    rcases startsAt_cons.mp hstart with ⟨heq, -, hrests⟩ | ⟨rest, rfl, hrest⟩
    · exact .inr ⟨congrArg Prod.snd heq, hrests, Nat.le_trans hlate hnow⟩
    · refine .inl ⟨rest, tick, ⟨start, count, hrest, htick, ?_⟩, hnow, ?_, hlate⟩
      · exact fun stop hstop => hstops stop (List.mem_cons_of_mem _ hstop)
      · exact fun time htime => hsince time (List.mem_cons_of_mem _ htime)
  · rintro (⟨since, tick, ⟨start, count, hstart, htick, hstops⟩, hnow, hsince, hlate⟩ |
      ⟨rfl, hrests, hlate⟩)
    · refine ⟨(now, note) :: since, tick, ⟨start, count, ?_, htick, ?_⟩, hnow, ?_, ?_⟩
      · exact startsAt_cons.mpr (.inr ⟨since, rfl, hstart⟩)
      · intro stop hstop
        rcases List.mem_cons.mp hstop with heq | hmem
        · have hstop : stop = now := congrArg Prod.fst heq
          exact hstop ▸ hnow
        · exact hstops stop hmem
      · intro time htime
        rcases List.mem_cons.mp htime with heq | hmem
        · exact absurd (congrArg Prod.snd heq).symm h
        · exact hsince time hmem
      · rw [rotatedAt_cons h]
        exact hlate
    · refine ⟨[], now, ⟨now, 0, startsAt_cons.mpr (.inl ⟨rfl, rfl, hrests⟩), by simp, by simp⟩,
        Nat.le_refl now, by simp, ?_⟩
      rw [rotatedAt_cons h]
      exact hlate

/-- Time that passes brings the looks of a checker that was not stopped. -/
theorem hasLateLook_later (past : ∀ entry ∈ notes, entry.1 ≤ now) (hle : now ≤ target) :
    notes.HasLateLook schedule target ↔
      notes.HasLateLook schedule now ∨
        ∃ start since, ∃ count : Nat, notes.StartsAt start since ∧ (∀ stop, (stop, .stopped) ∉ since) ∧
          now < start + count * schedule.interval ∧ start + count * schedule.interval ≤ target ∧
          notes.rotatedAt + schedule.period ≤ start + count * schedule.interval := by
  have older {start : Instant} {since : Chronicle} (hstart : notes.StartsAt start since)
      {time : Instant} {note : Note} (hmem : (time, note) ∈ since) : time ≤ now := by
    obtain ⟨before, rfl, -⟩ := hstart
    exact past (time, note) (List.mem_append_left _ hmem)
  constructor
  · rintro ⟨since, tick, ⟨start, count, hstart, rfl, hstops⟩, htarget, hsince, hlate⟩
    by_cases hnow : start + count * schedule.interval ≤ now
    · exact .inl ⟨since, _, ⟨start, count, hstart, rfl, hstops⟩, hnow, hsince, hlate⟩
    · have hafter : now < start + count * schedule.interval := Nat.not_le.mp hnow
      refine .inr ⟨start, since, count, hstart, fun stop hstop => ?_, hafter, htarget, hlate⟩
      exact hnow (Nat.le_trans (hstops stop hstop) (older hstart hstop))
  · rintro (⟨since, tick, hlooks, hnow, hsince, hlate⟩ |
      ⟨start, since, count, hstart, unstopped, hafter, htarget, hlate⟩)
    · exact ⟨since, tick, hlooks, Nat.le_trans hnow hle, hsince, hlate⟩
    · refine ⟨since, _, ⟨start, count, hstart, rfl, fun stop hstop => ?_⟩, htarget, ?_, hlate⟩
      · exact absurd hstop (unstopped stop)
      · exact fun time htime => Nat.lt_of_le_of_lt (older hstart htime) hafter

end Chronicle

end ProfileGuard.Rotation
