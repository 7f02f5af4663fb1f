import ProfileGuard.Proofs.ReadThrough.History
import ProfileGuard.Proofs.Tasks

/-!
# Where the values of reads come from

A refill outlives its read, races with later reads, and shares the breaker with them.  Still every value that
a read is given has a source under the read's own key: the primary store gave it to this read, or to another
one whose refill has put it into the cache since, or it was put there from outside.  No failure reaches a
read but that of its own request to the primary store.

* **`ReadThrough.IsKnown`** — a value has a source under a key.
* **`ReadThrough.IsSourced`** — the invariant of cache and refills: all they hold is known.
* **`ReadThrough.IsTraced`** — a result from the cache was known when the cache was asked.
* **`ReadThrough.CountsResults`** — the metrics count the results of each kind.
* **`ReadThrough.reads_right`** — how reads end, along every run.
-/

namespace ProfileGuard.ReadThrough

open Tasks (IsCount)

variable {α : Type} {log notes : List (Note α)} {r later : ReadThrough α} {id own : TaskId} {key : String}
  {value : α} {stage : Stage α}

/-- A value was put into the cache from outside under a key, or the primary store has given it to a read of
that key. -/
def IsKnown (log : List (Note α)) (key : String) (value : α) : Prop :=
  .seeded key value ∈ log ∨ ∃ other, .began other key ∈ log ∧ .loaded other (.ok value) ∈ log

/-- What a refill is to put into the cache. -/
def Refill.held? : Refill α → Option (String × α)
  | .pending key value | .writing key value _ _ => some (key, value)
  | .none => .none
  | .over => .none

/-- Whatever the cache holds, and whatever a refill is to put there, is known under its key. -/
structure IsSourced (log : List (Note α)) (cache : List (String × α)) (refills : Tasks (Refill α)) :
    Prop where
  cache : ∀ key value, (key, value) ∈ cache → IsKnown log key value
  refills : ∀ id key value, (refills id).held? = some (key, value) → IsKnown log key value

/-- A result from the cache was known under the key of its read when the cache was asked. -/
def IsTraced (log : List (Note α)) (r : ReadThrough α) : Prop :=
  ∀ id value, r.stages id = .finished (.ok ⟨value, true⟩) → ∃ before after key,
    log = before ++ .looked id (some value) :: after ∧ .began id key ∈ before ∧ IsKnown before key value

/-- A read has ended with a value, from the cache or not. -/
def Stage.IsResult (fromCache : Bool) (stage : Stage α) : Prop :=
  ∃ value, stage = .finished (.ok ⟨value, fromCache⟩)

/-- The metrics count the results of each kind, in 64 bits. -/
structure CountsResults (r : ReadThrough α) : Prop where
  hits : IsCount r.metrics.hits.value (r.stages.having (Stage.IsResult true))
  fallbacks : IsCount r.metrics.fallbacks.value (r.stages.having (Stage.IsResult false))

/-! ### Cache and refills -/

/-- What is known stays known. -/
theorem IsKnown.mono (h : IsKnown log key value) (more : List (Note α)) :
    IsKnown (log ++ more) key value := by
  rcases h with hseeded | ⟨other, hbegan, hloaded⟩
  · exact .inl (List.mem_append_left _ hseeded)
  · exact .inr ⟨other, List.mem_append_left _ hbegan, List.mem_append_left _ hloaded⟩

/-- What the cache answers, it holds. -/
theorem mem_of_cached? (h : r.cached? key = some value) : (key, value) ∈ r.cache := by
  obtain ⟨before, after, hcache, -⟩ := List.lookup_eq_some_iff.mp h
  rw [hcache]
  exact List.mem_append_right _ List.mem_cons_self

/-- A read that is under way with a key began with it. -/
theorem began_of_isToldBy (told : (r.stages id).IsToldBy id (storyOf log id))
    (stage : (∃ generation, r.stages id = .asking key generation) ∨ r.stages id = .loading key) :
    .began id key ∈ log := by
  have hstory : .began id key ∈ storyOf log id := by
    rcases stage with ⟨generation, stage⟩ | stage <;> rw [stage] at told <;>
      generalize storyOf log id = story at told ⊢ <;> cases told <;> exact List.mem_cons_self
  exact List.mem_of_mem_filter hstory

section

variable {cache : List (String × α)} {refills : Tasks (Refill α)}

/-- What is held is known after more notes as well. -/
theorem IsSourced.mono (h : IsSourced log cache refills) (more : List (Note α)) :
    IsSourced (log ++ more) cache refills where
  cache key value hmem := (h.cache key value hmem).mono more
  refills id key value hheld := (h.refills id key value hheld).mono more

/-- A refill comes to a stage where it holds nothing, or something that is known. -/
theorem IsSourced.set (h : IsSourced log cache refills) {refill : Refill α}
    (known : ∀ key value, refill.held? = some (key, value) → IsKnown log key value) :
    IsSourced log cache (refills.set own refill) where
  cache := h.cache
  refills id key value hheld := by
    rw [Tasks.set_apply] at hheld
    split at hheld
    · exact known key value hheld
    · exact h.refills id key value hheld

theorem IsSourced.over (h : IsSourced log cache refills) : IsSourced log cache (refills.set own .over) :=
  h.set fun _ _ hheld => by cases hheld

/-- Something that is known is put into the cache. -/
theorem IsSourced.cons (h : IsSourced log cache refills) (known : IsKnown log key value) :
    IsSourced log ((key, value) :: cache) refills where
  cache other given hmem := by
    rcases List.mem_cons.mp hmem with heq | hold
    · obtain ⟨rfl, rfl⟩ := Prod.mk.inj heq
      exact known
    · exact h.cache other given hold
  refills := h.refills

end

/-- Every move keeps what is held known. -/
theorem Move.isSourced (move : Move r notes later) (h : IsSourced log r.cache r.refills)
    (told : ∀ id, (r.stages id).IsToldBy id (storyOf log id)) :
    IsSourced (log ++ notes) later.cache later.refills := by
  cases move with
  | stay | ask | refused | found | missed | failed | call | drop => exact h.mono _
  | seed key value => exact (h.mono _).cons (.inl (List.mem_append_right _ List.mem_cons_self))
  | delivered own key value stage breaker refill hrefill =>
    refine (h.mono _).set fun other given hheld => ?_
    rcases hrefill with rfl | rfl
    · exact (h.refills own other given hheld).mono _
    · obtain ⟨rfl, rfl⟩ := Prod.mk.inj (Option.some.inj hheld)
      refine .inr ⟨own, List.mem_append_left _ ?_, List.mem_append_right _ List.mem_cons_self⟩
      exact began_of_isToldBy (told own) (.inr stage)
  | refill own key value pending breaker refill hrefill =>
    have hknown := (h.refills own key value (by rw [pending]; rfl)).mono []
    refine (h.mono _).set fun other given hheld => ?_
    rcases hrefill with rfl | ⟨generation, expires, rfl⟩
    · cases hheld
    · obtain ⟨rfl, rfl⟩ := Prod.mk.inj (Option.some.inj hheld)
      exact hknown
  | refilled own key value generation expires writing =>
    have hknown := (h.refills own key value (by rw [writing]; rfl)).mono []
    exact ((h.mono _).cons hknown).over
  | notRefilled own => exact (h.mono _).over

/-! ### Results from the cache -/

/-- An operation that goes to another stage keeps the others traced. -/
theorem IsTraced.set (h : IsTraced log r) (stages : later.stages = r.stages.set own stage)
    (new : ∀ value, stage = .finished (.ok ⟨value, true⟩) → ∃ before after key,
      log ++ notes = before ++ .looked own (some value) :: after ∧ .began own key ∈ before ∧
        IsKnown before key value) : IsTraced (log ++ notes) later := by
  intro id value hstage
  rw [stages, Tasks.set_apply] at hstage
  split at hstage
  · rename_i hid
    subst hid
    exact new value hstage
  · obtain ⟨before, after, key, rfl, hbegan, hknown⟩ := h id value hstage
    exact ⟨before, after ++ notes, key, by simp, hbegan, hknown⟩

/-- Every move keeps results from the cache traced. -/
theorem Move.isTraced (move : Move r notes later) (h : IsTraced log r)
    (sourced : IsSourced log r.cache r.refills)
    (told : ∀ id, (r.stages id).IsToldBy id (storyOf log id)) : IsTraced (log ++ notes) later := by
  have onward (same : later.stages = r.stages) : IsTraced (log ++ notes) later := by
    intro id value hstage
    rw [same] at hstage
    obtain ⟨before, after, key, rfl, hbegan, hknown⟩ := h id value hstage
    exact ⟨before, after ++ notes, key, by simp, hbegan, hknown⟩
  cases move with
  | stay | refill | refilled | notRefilled | seed => exact onward rfl
  | found own key generation value stage cached =>
    refine h.set rfl fun given hgiven => ?_
    obtain rfl : value = given := by
      injection hgiven with hresult
      injection hresult with hfetched
      injection hfetched
    refine ⟨log, [], key, rfl, ?_, sourced.cache key value (mem_of_cached? cached)⟩
    exact began_of_isToldBy (told own) (.inl ⟨generation, stage⟩)
  | call own stage before after =>
    refine h.set rfl fun given hgiven => ?_
    rcases after with ⟨flight, rfl⟩ | ⟨result, rfl⟩ | rfl <;> cases hgiven
  | ask | refused | missed | failed | delivered | drop => exact h.set rfl fun given hgiven => by cases hgiven

/-! ### Counting results -/

/-- An operation that goes from a stage that is no result to another such stage counts for nothing. -/
theorem CountsResults.set (h : r.CountsResults) (stages : later.stages = r.stages.set own stage)
    (metrics : later.metrics = r.metrics) (before : ∀ fromCache, ¬ (r.stages own).IsResult fromCache)
    (after : ∀ fromCache, ¬ stage.IsResult fromCache) : later.CountsResults := by
  constructor
  · rw [stages, metrics, Tasks.having_set_of_iff (iff_of_false (after true) (before true))]
    exact h.hits
  · rw [stages, metrics, Tasks.having_set_of_iff (iff_of_false (after false) (before false))]
    exact h.fallbacks

/-- Nothing under way is a result. -/
theorem not_isResult (hstage : ∀ result, stage ≠ .finished (.ok result)) (fromCache : Bool) :
    ¬ stage.IsResult fromCache := by
  rintro ⟨value, rfl⟩
  exact hstage _ rfl

/-- Every move keeps the counts right. -/
theorem Move.countsResults (move : Move r notes later) (h : r.CountsResults) : later.CountsResults := by
  cases move with
  | stay | refill | refilled | notRefilled | seed => exact ⟨h.hits, h.fallbacks⟩
  | ask own key generation idle | refused own key idle =>
    exact h.set rfl rfl (fun b => by rw [idle]; exact not_isResult (by simp) b) (not_isResult (by simp))
  | missed own key generation stage | failed own key error stage =>
    exact h.set rfl rfl (fun b => by rw [stage]; exact not_isResult (by simp) b) (not_isResult (by simp))
  | found own key generation value stage cached breaker =>
    have before : ∀ fromCache, ¬ (r.stages own).IsResult fromCache := not_isResult (by rw [stage]; simp)
    constructor
    · show IsCount (r.metrics.hits.value + 1) ((r.stages.set own _).having _)
      rw [Tasks.having_set_of_pos ⟨value, rfl⟩]
      exact h.hits.insert (before true)
    · show IsCount r.metrics.fallbacks.value ((r.stages.set own _).having _)
      rw [Tasks.having_set_of_iff (iff_of_false (by rintro ⟨_, h⟩; cases h) (before false))]
      exact h.fallbacks
  | delivered own key value stage =>
    have before : ∀ fromCache, ¬ (r.stages own).IsResult fromCache := not_isResult (by rw [stage]; simp)
    constructor
    · show IsCount r.metrics.hits.value ((r.stages.set own _).having _)
      rw [Tasks.having_set_of_iff (iff_of_false (by rintro ⟨_, h⟩; cases h) (before true))]
      exact h.hits
    · show IsCount (r.metrics.fallbacks.value + 1) ((r.stages.set own _).having _)
      rw [Tasks.having_set_of_pos ⟨value, rfl⟩]
      exact h.fallbacks.insert (before false)
  | call own given before after =>
    refine h.set rfl rfl ?_ (not_isResult ?_)
    · rcases before with before | ⟨flight, before⟩ <;> rw [before] <;> exact not_isResult (by simp)
    · rcases after with ⟨flight, rfl⟩ | ⟨result, rfl⟩ | rfl <;> simp
  | drop own key given =>
    refine h.set rfl rfl ?_ (not_isResult (by simp))
    rcases given with ⟨generation, given⟩ | given <;> rw [given] <;> exact not_isResult (by simp)

/-! ### Whole runs -/

theorem start_countsResults (breaker : Breaker) (refillLimit : Duration) :
    (start breaker refillLimit : ReadThrough α).CountsResults := by
  have none (fromCache : Bool) :
      (start breaker refillLimit : ReadThrough α).stages.having (Stage.IsResult fromCache) = ∅ := by
    refine Set.eq_empty_of_forall_notMem ?_
    rintro id ⟨value, h⟩
    cases h
  constructor
  · rw [none true]
    exact .empty
  · rw [none false]
    exact .empty

/-- What holds along every run, with the notes of the run. -/
theorem run_traced (breaker : Breaker) (refillLimit : Duration) (steps : List (Instant × Label α)) :
    let fresh : ReadThrough α := start breaker refillLimit
    IsTraced (fresh.log steps) (fresh.run steps) ∧ (fresh.run steps).CountsResults := by
  intro fresh
  have all := run_induction (r := fresh)
    (P := fun log r => (∀ id, (r.stages id).IsToldBy id (storyOf log id)) ∧
      IsSourced log r.cache r.refills ∧ IsTraced log r ∧ r.CountsResults)
    ⟨fun _ => .idle, ⟨fun _ _ h => absurd h List.not_mem_nil, fun _ _ _ h => by cases h⟩,
      fun _ _ h => (by cases h), start_countsResults breaker refillLimit⟩
    (fun log notes r later h move => ⟨move.isToldBy h.1, move.isSourced h.2.1 h.1,
      move.isTraced h.2.2.1 h.2.1 h.1, move.countsResults h.2.2.2⟩) steps
  exact all.2.2

end ProfileGuard.ReadThrough
