import ProfileGuard.Proofs.KeySource.Guarded

/-!
# One read or many

A store gives a snapshot from one read of its secret.  A source that knows nothing better asks for the current
version, for the list of versions and then for each key, and a store answers each of these questions with a read
of its own, through its breaker.  As long as the store answers every read alike the two come to the same: to the
same keys, or to the same error, whatever is wrong with the secret and in however many places.  The breaker does
not come between, for an answer that has a secret in it is a success, and any other ends the questions at once.

* **`KeySource.Consults`** / **`KeySource.Reader.IsBackedBy`** — questions that are answered from one document.
* **`KeySource.Reader.snapshot_of_isBackedBy`** — single answers from one document make up its snapshot.
* **`KeySource.Timetable`** / **`KeySource.Vault.readerOver`** — single questions whose requests take time.
* **`KeySource.Vault.snapshot_eq_stepwise`** — the two snapshots of a store are the same.
-/

namespace ProfileGuard.KeySource

open ProfileGuard.Field

/-! ### Answers from one document -/

section Backed

variable {σ α : Type} {kept : σ → Prop} {document : Except Error Document} {r : Reader (StateM σ)}

/-- From every state of a kind, a question is answered by what one document holds.  Where there is such a
document, the state stays of that kind. -/
def Consults (ask : StateM σ (Except Error α)) (kept : σ → Prop) (document : Except Error Document)
    (find : Document → Except Error α) : Prop :=
  ∀ s, kept s → (ask s).1 = document.bind find ∧ ∀ d, document = .ok d → kept (ask s).2

namespace Reader

/-- Every question is answered from one document. -/
structure IsBackedBy (r : Reader (StateM σ)) (kept : σ → Prop) (document : Except Error Document) :
    Prop where
  key : ∀ version, Consults (r.key version) kept document (Question.key version).find
  current : Consults r.current kept document Question.current.find
  versions : Consults r.versions kept document Question.versions.find

/-- A question, and what is asked next unless it fails. -/
theorem run_next {β : Type} (ask : StateM σ (Except Error α))
    (next : Except Error α → StateM σ (Except Error β))
    (stops : ∀ e, next (.error e) = pure (.error e)) (s : σ) :
    ((ask >>= next) s).1 = (ask s).1.bind fun a => (next (.ok a) (ask s).2).1 := by
  show (next (ask s).1 (ask s).2).1 = _
  cases (ask s).1 with
  | error e =>
    rw [stops]
    rfl
  | ok a => rfl

/-- The first key of a list is asked for, and then the others. -/
theorem collect_run (r : Reader (StateM σ)) (found : KeyMap) (version : UInt32) (versions : List UInt32)
    (s : σ) :
    (r.collect found (version :: versions) s).1 = (r.key version s).1.bind fun key =>
      (r.collect (found.put version key) versions (r.key version s).2).1 :=
  run_next (r.key version) _ (by intro e; rfl) s

/-- Asking for the keys of a document one by one finds what the document itself finds. -/
theorem collect_of_isBackedBy {d : Document} (backed : r.IsBackedBy kept (.ok d))
    {keys : List (String × Json.Value)} (hkeys : d.keys = .ok keys) (versions : List UInt32)
    (found : KeyMap) {s : σ} (h : kept s) :
    (r.collect found versions s).1 = Document.collect keys found versions := by
  induction versions generalizing found s with
  | nil => rfl
  | cons version versions ih =>
    obtain ⟨hanswer, hkept⟩ := backed.key version s h
    have hfind : (r.key version s).1 = Document.keyAt keys version := by
      rw [hanswer]
      show d.keys.bind (fun keys => Document.keyAt keys version) = _
      rw [hkeys]
      rfl
    rw [collect_run, hfind]
    show (Document.keyAt keys version).bind _ = (Document.keyAt keys version).bind _
    congr 1
    funext key
    exact ih (found.put version key) (hkept d rfl)

/-- What a snapshot put together from single answers is, with the states between the questions. -/
theorem snapshot_run (r : Reader (StateM σ)) (s : σ) :
    (r.snapshot s).1 = (r.current s).1.bind fun current =>
      (r.versions (r.current s).2).1.bind fun versions =>
        (r.collect [] versions (r.versions (r.current s).2).2).1.bind fun keys => .ok ⟨current, keys⟩ := by
  unfold Reader.snapshot
  refine (run_next r.current _ (by intro e; rfl) s).trans ?_
  congr 1
  funext current
  refine (run_next r.versions _ (by intro e; rfl) _).trans ?_
  congr 1
  funext versions
  exact run_next (r.collect [] versions) _ (by intro e; rfl) _

/-- Single answers from one document make up the snapshot of that document. -/
theorem snapshot_of_isBackedBy (backed : r.IsBackedBy kept document) {s : σ} (h : kept s) :
    (r.snapshot s).1 = document.bind Document.snapshot := by
  obtain ⟨hcurrent, hkept⟩ := backed.current s h
  rw [snapshot_run, hcurrent]
  cases hdocument : document with
  | error e => rfl
  | ok d =>
    subst hdocument
    obtain ⟨hversions, hkept⟩ := backed.versions _ (hkept d rfl)
    rw [hversions]
    show d.current.bind _ = d.current.bind _
    congr 1
    funext current
    show (d.keys.bind fun keys => .ok (Document.versionsOf keys)).bind _ = d.keys.bind _
    cases hkeys : d.keys with
    | error e => rfl
    | ok keys =>
      show (r.collect [] (Document.versionsOf keys) _).1.bind _ = _
      rw [collect_of_isBackedBy backed hkeys _ _ (hkept d rfl)]
      rfl

end Reader

end Backed

/-! ### A store that answers every read alike -/

namespace Vault

variable {v : Vault} {s t : Server}

theorem fetch_server (v : Vault) (t : Server) :
    (v.fetch t).1.response = t.response ∧ (v.fetch t).1.down = t.down := by
  unfold fetch Server.serve
  split
  · split
    · rename_i hserve
      split at hserve
      · cases hserve
      · obtain ⟨rfl, -⟩ := Prod.mk.inj hserve
        exact ⟨rfl, rfl⟩
    · rename_i hserve
      split at hserve
      · obtain ⟨rfl, -⟩ := Prod.mk.inj hserve
        exact ⟨rfl, rfl⟩
      · cases hserve
  · exact ⟨rfl, rfl⟩

/-- What is fetched depends neither on the breaker nor on the requests that the server has seen. -/
theorem fetch_answer (breaker : Breaker) (hresponse : t.response = s.response) (hdown : t.down = s.down) :
    (fetch { v with breaker } t).2 = (v.fetch s).2 := by
  have hsendable : isSendable { v with breaker } = v.isSendable := rfl
  unfold fetch Server.serve
  rw [hsendable, hdown, hresponse]
  by_cases sendable : v.isSendable = true
  · rw [if_pos sendable, if_pos sendable]
    cases s.down <;> rfl
  · rw [if_neg sendable, if_neg sendable]

/-- A store that has changed in its breaker only, which is untroubled, before a server that answers as it did. -/
structure StandsAs (v : Vault) (s : Server) (asking : Vault × Server) : Prop where
  store : ∃ breaker : Breaker, breaker.IsUntroubled ∧ asking.1 = { v with breaker }
  response : asking.2.response = s.response
  down : asking.2.down = s.down

theorem standsAs_self (untroubled : v.breaker.IsUntroubled) (s : Server) : StandsAs v s (v, s) :=
  ⟨⟨v.breaker, untroubled, rfl⟩, rfl, rfl⟩

/-- Every question is answered from the secret that a first read would give. -/
theorem askOver_consults (v : Vault) (s : Server) (q : Question) (sent answered : Instant) :
    Consults (q.askOver sent answered) (StandsAs v s) (v.fetch s).2 q.find := by
  rintro ⟨w, t⟩ ⟨⟨breaker, untroubled, hstore⟩, hresponse, hdown⟩
  obtain rfl : w = { v with breaker } := hstore
  obtain ⟨generation, hread⟩ := readOver_untroubled (v := { v with breaker }) untroubled sent answered t
  have hanswer := fetch_answer (v := v) breaker hresponse hdown
  obtain ⟨hserverResponse, hserverDown⟩ := fetch_server { v with breaker } t
  rw [Question.askOver_eq, hread, hanswer]
  refine ⟨rfl, fun d hd => ⟨⟨_, ?_, rfl⟩, hserverResponse.trans hresponse, hserverDown.trans hdown⟩⟩
  -- a secret was read, so that the breaker is told of a success
  rw [hd]
  exact (untroubled.acquire sent).1.record answered generation

/-- At one instant. -/
theorem reader_isBackedBy (v : Vault) (s : Server) (now : Instant) :
    (reader now).IsBackedBy (StandsAs v s) (v.fetch s).2 where
  key version := by
    show Consults ((Question.key version).ask now) _ _ _
    rw [← Question.askOver_self]
    exact askOver_consults v s _ now now
  current := by
    show Consults (Question.current.ask now) _ _ _
    rw [← Question.askOver_self]
    exact askOver_consults v s _ now now
  versions := by
    show Consults (Question.versions.ask now) _ _ _
    rw [← Question.askOver_self]
    exact askOver_consults v s _ now now

end Vault

/-! ### Requests that take time -/

/-- When each request is sent and when it is answered, in the order in which they are made. -/
abbrev Timetable := Nat → Instant × Instant

/-- The question, asked when the timetable says, with the number of requests before it. -/
def Question.askNext (q : Question) (timetable : Timetable) :
    StateM (Nat × Vault × Server) (Except Error q.Answer) := fun (made, asking) =>
  let (sent, answered) := timetable made
  let (answer, asking) := q.askOver sent answered asking
  (answer, made + 1, asking)

namespace Vault

variable (timetable : Timetable)

/-- The single answers, one read for each, whose requests are sent and answered when a timetable says. -/
def readerOver : Reader (StateM (Nat × Vault × Server)) where
  key version := (Question.key version).askNext timetable
  current := Question.current.askNext timetable
  versions := Question.versions.askNext timetable

theorem askNext_consults (v : Vault) (s : Server) (q : Question) :
    Consults (q.askNext timetable) (fun asking => StandsAs v s asking.2) (v.fetch s).2 q.find := by
  rintro ⟨made, asking⟩ h
  exact askOver_consults v s q _ _ asking h

theorem readerOver_isBackedBy (v : Vault) (s : Server) :
    (readerOver timetable).IsBackedBy (fun asking => StandsAs v s asking.2) (v.fetch s).2 where
  key version := askNext_consults timetable v s (.key version)
  current := askNext_consults timetable v s .current
  versions := askNext_consults timetable v s .versions

/-- **One read gives what many reads give.**  A store behind a fresh breaker of its own kind, whatever its
address, path and token, and a server that answers every request alike, with any status and any body or not at
all: the snapshot from one read is the one put together from the current version, the list of versions and the
key of each listed version, one read for each.  Either both have the same current version and the same keys, or
both fail with the same error.  It makes no difference when the requests are sent and how long they take. -/
theorem snapshot_eq_stepwise (url : Url) (path : String) (token : Option String) (began : Instant)
    (s : Server) :
    let v : Vault := ⟨url, path, token, Breaker.start breakerSettings began⟩
    (∀ now, (snapshot now (v, s)).1 = ((reader now).snapshot (v, s)).1) ∧
      ∀ (sent answered : Instant) (timetable : Timetable),
        (Question.snapshot.askOver sent answered (v, s)).1 =
          ((readerOver timetable).snapshot (0, v, s)).1 := by
  intro v
  have valid : breakerSettings.validate = .ok () := by decide +kernel
  have untroubled : v.breaker.IsUntroubled := ⟨valid, Breaker.Circuit.start_isUntroubled _ _⟩
  have stands : StandsAs v s (v, s) := standsAs_self untroubled s
  have hone : ∀ sent answered, (Question.snapshot.askOver sent answered (v, s)).1 =
      (v.fetch s).2.bind Document.snapshot :=
    fun sent answered => (askOver_consults v s .snapshot sent answered (v, s) stands).1
  constructor
  · intro now
    rw [Reader.snapshot_of_isBackedBy (reader_isBackedBy v s now) stands, ← hone now now,
      Question.askOver_self]
    rfl
  · intro sent answered timetable
    rw [hone, Reader.snapshot_of_isBackedBy (readerOver_isBackedBy timetable v s) stands]

end Vault

end ProfileGuard.KeySource
