import ProfileGuard.KeySource.Vault
import ProfileGuard.Proofs.Breaker.Untroubled

/-!
# What counts against the breaker of a store

A store that answers has done its part, also if it answers that there is no such secret, that we may not read
it, or with a document that is no secret.  Such answers are errors to whoever asked, and successes to the
breaker.  So as long as the store answers like that, the breaker stays closed and every question goes through;
and where it does refuse one, the store is not asked at all.

* **`KeySource.Error.IsFinal`** / **`KeySource.FailsFinally`** — an error that is neither a retryable one nor
  one of the breaker, and an answer with no other error.
* **`KeySource.Question`** — the four questions, with the time that their requests take.
* **`KeySource.Turn`** — a question with what the store answers.
* **`KeySource.Turn.take_settled`** / **`KeySource.Turn.takeAll_settled`** — one turn, and a series of them.
* **`KeySource.Vault.only_unavailability_counts`** — what counts against the breaker, and what it refuses.
-/

namespace ProfileGuard.KeySource

/-! ### Answers by which a store has done its part -/

/-- A status code by which a store has done its part: a success, or a refusal that asking again cannot
better. -/
def IsSettled (status : Nat) : Prop :=
  HttpStatus.isSuccess status = true ∨ status = 401 ∨ status = 403 ∨ status = 404

/-- Asking again cannot help, and the error is not that of a guard. -/
def Error.IsFinal (e : Error) : Prop := e.isRetryable = false ∧ ∀ failure, e ≠ .guarded failure

/-- An answer that is an error only for a reason that asking again cannot better. -/
def FailsFinally {α : Type} (answer : Except Error α) : Prop := ∀ e, answer = .error e → e.IsFinal

section Answers

variable {α β : Type} {answer : Except Error α} {next : α → Except Error β} {e : Error}

theorem failsFinally_ok (a : α) : FailsFinally (.ok a) := nofun

theorem failsFinally_error (h : e.IsFinal) : FailsFinally (.error e : Except Error α) := by
  intro error heq
  cases heq
  exact h

theorem FailsFinally.bind (h : FailsFinally answer) (hnext : ∀ a, FailsFinally (next a)) :
    FailsFinally (answer >>= next) := by
  cases answer with
  | ok a => exact hnext a
  | error e => exact failsFinally_error (h e rfl)

end Answers

theorem Error.invalidStructure_isFinal (reason : String) : (invalidStructure reason).IsFinal :=
  ⟨rfl, nofun⟩

namespace Document

theorem ofAnswer_failsFinally (answer : Json.Value) : FailsFinally (ofAnswer answer) := by
  unfold ofAnswer
  split
  · split
    · split <;> exact failsFinally_ok _
    · exact failsFinally_error (Error.invalidStructure_isFinal _)
  · exact failsFinally_error (Error.invalidStructure_isFinal _)

theorem keys_failsFinally (d : Document) : FailsFinally d.keys := by
  unfold Document.keys
  split
  · exact failsFinally_ok _
  · exact failsFinally_error (Error.invalidStructure_isFinal _)

theorem current_failsFinally (d : Document) : FailsFinally d.current := by
  unfold Document.current
  split
  · exact failsFinally_error (Error.invalidStructure_isFinal _)
  · split
    · exact failsFinally_ok _
    · exact failsFinally_error (Error.invalidStructure_isFinal _)

theorem keyAt_failsFinally (keys : List (String × Json.Value)) (version : UInt32) :
    FailsFinally (keyAt keys version) := by
  unfold keyAt
  split
  · exact failsFinally_error ⟨rfl, nofun⟩
  · split
    · exact failsFinally_ok _
    · exact failsFinally_error ⟨rfl, nofun⟩
  · exact failsFinally_error (Error.invalidStructure_isFinal _)

theorem collect_failsFinally (keys : List (String × Json.Value)) (found : Field.KeyMap)
    (versions : List UInt32) : FailsFinally (collect keys found versions) := by
  induction versions generalizing found with
  | nil => exact failsFinally_ok _
  | cons version versions ih => exact (keyAt_failsFinally keys version).bind fun _ => ih _

theorem snapshot_failsFinally (d : Document) : FailsFinally d.snapshot :=
  (current_failsFinally d).bind fun _ => (keys_failsFinally d).bind fun keys =>
    (collect_failsFinally keys [] (versionsOf keys)).bind fun _ => failsFinally_ok _

end Document

/-- What a settled answer can be an error of. -/
theorem Response.document_failsFinally {r : Response} (settled : IsSettled r.status) (path : String) :
    FailsFinally (r.document path) := by
  unfold Response.document
  split
  · exact failsFinally_error ⟨rfl, nofun⟩
  · rename_i notFound
    split
    · exact failsFinally_error ⟨rfl, nofun⟩
    · rename_i permitted
      have success : HttpStatus.isSuccess r.status = true := by
        rcases settled with h | h | h | h
        · exact h
        · exact absurd (.inl h) permitted
        · exact absurd (.inr h) permitted
        · exact absurd h notFound
      rw [success]
      split
      · rename_i hnot
        cases hnot
      · split
        · exact Document.ofAnswer_failsFinally _
        · exact failsFinally_error (Error.invalidStructure_isFinal _)

theorem endsRequest_of_isSettled {status : Nat} (settled : IsSettled status) :
    HttpStatus.endsRequest status = true := by
  rcases settled with h | rfl | rfl | rfl
  · simp only [HttpStatus.isSuccess, Bool.and_eq_true, decide_eq_true_eq] at h
    simp only [HttpStatus.endsRequest, Bool.or_eq_true, Bool.and_eq_true, decide_eq_true_eq]
    omega
  all_goals rfl

namespace Vault

variable {v : Vault} {s : Server}

/-- The server after one more request for the secret. -/
def asked (v : Vault) (s : Server) : Server := { s with requests := ⟨v.url.target, v.token⟩ :: s.requests }

/-- A request that gets a settled answer is one request, and the answer is read as a document. -/
theorem fetch_eq (sendable : v.isSendable = true) (up : s.down = false)
    (settled : IsSettled s.response.status) :
    v.fetch s = (v.asked s, s.response.document v.path) := by
  simp [fetch, sendable, Server.serve, up, endsRequest_of_isSettled settled, asked]

/-- A settled answer counts as a success, also where it is an error. -/
theorem isSuccess_document {r : Response} {path : String} (settled : IsSettled r.status) :
    isSuccess (r.document path) = true := by
  cases h : r.document path with
  | ok document => rfl
  | error e => simp [isSuccess, (r.document_failsFinally settled path e h).1]

/-- Reads the secret with a request that is sent at one instant and answered at another. -/
def readOver (sent answered : Instant) : Asking (Except Error Document) := fun (v, s) =>
  match v.breaker.acquire sent with
  | (breaker, .ok generation) =>
    let (s, answer) := v.fetch s
    (answer, { v with breaker := breaker.record answered generation (isSuccess answer) }, s)
  | (breaker, .error refusal) =>
    let failure := (refusal.toCallError breaker.settings.name).flatten
    (.error (.guarded failure), { v with breaker }, s)

/-- Where the breaker is untroubled, a read is a request, of whose outcome the breaker is told. -/
theorem readOver_untroubled (untroubled : v.breaker.IsUntroubled) (sent answered : Instant) (s : Server) :
    ∃ generation, readOver sent answered (v, s) = ((v.fetch s).2,
      { v with breaker :=
          (v.breaker.acquire sent).1.record answered generation (isSuccess (v.fetch s).2) },
      (v.fetch s).1) := by
  obtain ⟨-, generation, hadmitted⟩ := untroubled.acquire sent
  refine ⟨generation, ?_⟩
  rw [readOver, ← Prod.eta (v.breaker.acquire sent), hadmitted]

end Vault

/-! ### Questions -/

/-- A question to a store. -/
inductive Question where
  | key (version : UInt32)
  | current
  | versions
  | snapshot

namespace Question

/-- What a question asks for. -/
def Answer : Question → Type
  | key _ => Field.Key
  | current => UInt32
  | versions => List UInt32
  | snapshot => Snapshot

/-- The answer that a secret holds. -/
def find : (q : Question) → Document → Except Error q.Answer
  | key version, d => d.keys.bind fun keys => Document.keyAt keys version
  | current, d => d.current
  | versions, d => d.keys.bind fun keys => .ok (Document.versionsOf keys)
  | snapshot, d => d.snapshot

/-- The question, asked at one instant. -/
def ask : (q : Question) → Instant → Vault.Asking (Except Error q.Answer)
  | key version, now => Vault.key now version
  | current, now => Vault.current now
  | versions, now => Vault.versions now
  | snapshot, now => Vault.snapshot now

/-- The question, asked by a request that takes time. -/
def askOver (q : Question) (sent answered : Instant) : Vault.Asking (Except Error q.Answer) := do
  let document ← Vault.readOver sent answered
  return document.bind q.find

/-- A question is one read, and its answer is what the secret holds. -/
theorem askOver_eq (q : Question) (sent answered : Instant) (asking : Vault × Server) :
    q.askOver sent answered asking =
      ((Vault.readOver sent answered asking).1.bind q.find, (Vault.readOver sent answered asking).2) := rfl

/-- A question asked at one instant is one whose request takes no time. -/
theorem askOver_self (q : Question) (now : Instant) : q.askOver now now = q.ask now := by
  have find_key : ∀ version (document : Except Error Document),
      (document.bind (find (key version))) =
        (document.bind Document.keys).bind fun keys => Document.keyAt keys version := by
    intro version document
    cases document <;> rfl
  have find_versions : ∀ document : Except Error Document,
      document.bind (find versions) = (document.bind Document.keys).map Document.versionsOf := by
    intro document
    cases document <;> rfl
  cases q with
  | key version =>
    funext vs
    exact congrArg (·, (Vault.read now vs).2) (find_key version (Vault.read now vs).1)
  | versions =>
    funext vs
    exact congrArg (·, (Vault.read now vs).2) (find_versions (Vault.read now vs).1)
  | current => rfl
  | snapshot => rfl

theorem find_failsFinally (q : Question) (d : Document) : FailsFinally (q.find d) := by
  cases q with
  | key version =>
    exact (Document.keys_failsFinally d).bind fun keys => Document.keyAt_failsFinally keys version
  | current => exact Document.current_failsFinally d
  | versions => exact (Document.keys_failsFinally d).bind fun _ => failsFinally_ok _
  | snapshot => exact Document.snapshot_failsFinally d

end Question

/-! ### Turns -/

/-- A question put to a store that can be reached, when, and what the store answers. -/
structure Turn where
  question : Question
  sent : Instant
  answered : Instant
  response : Response

/-- The error in the place of an answer. -/
def error? {α : Type} : Except Error α → Option Error
  | .ok _ => none
  | .error e => some e

theorem eq_of_error? {α : Type} {answer : Except Error α} {e : Error} (h : error? answer = some e) :
    answer = .error e := by
  cases answer with
  | ok a => cases h
  | error error =>
    cases h
    rfl

namespace Turn

/-- The server as the question finds it. -/
def face (t : Turn) (s : Server) : Server := { s with response := t.response, down := false }

/-- Puts the question, and keeps the error if the answer is one. -/
def take (t : Turn) : Vault.Asking (Option Error) := fun (v, s) =>
  let (answer, asking) := t.question.askOver t.sent t.answered (v, t.face s)
  (error? answer, asking)

/-- Puts the questions of a list one after the other. -/
def takeAll : List Turn → Vault.Asking (List (Option Error))
  | [] => return []
  | t :: turns => do
    let failure ← t.take
    return failure :: (← takeAll turns)

theorem takeAll_cons (t : Turn) (turns : List Turn) (asking : Vault × Server) :
    takeAll (t :: turns) asking =
      ((t.take asking).1 :: (takeAll turns (t.take asking).2).1, (takeAll turns (t.take asking).2).2) := rfl

/-- The request can be sent, and gets a settled answer. -/
def IsSettledBy (v : Vault) (t : Turn) : Prop := v.isSendable = true ∧ IsSettled t.response.status

variable {v : Vault} {s : Server} {turns : List Turn} {failure : Option Error}

/-- A question with a settled answer is one request, leaves the breaker untroubled and fails only for what
asking again cannot better. -/
theorem take_settled {t : Turn} (untroubled : v.breaker.IsUntroubled) (settled : t.IsSettledBy v) :
    ∃ failure breaker, t.take (v, s) = (failure, { v with breaker }, v.asked (t.face s)) ∧
      breaker.IsUntroubled ∧ ∀ e, failure = some e → e.IsFinal := by
  obtain ⟨sendable, settled⟩ := settled
  have hfetch : v.fetch (t.face s) = (v.asked (t.face s), t.response.document v.path) :=
    Vault.fetch_eq sendable rfl settled
  obtain ⟨generation, hread⟩ := Vault.readOver_untroubled untroubled t.sent t.answered (t.face s)
  simp only [hfetch, Vault.isSuccess_document settled] at hread
  have htake : t.take (v, s) = (error? ((t.response.document v.path).bind t.question.find),
      { v with breaker := (v.breaker.acquire t.sent).1.record t.answered generation true },
      v.asked (t.face s)) := by
    rw [take, Question.askOver_eq, hread]
  exact ⟨_, _, htake, (untroubled.acquire t.sent).1.record t.answered generation, fun e he =>
    (t.response.document_failsFinally settled v.path).bind t.question.find_failsFinally e (eq_of_error? he)⟩

/-- The same of a series of questions. -/
theorem takeAll_settled (untroubled : v.breaker.IsUntroubled)
    (settled : ∀ t ∈ turns, t.IsSettledBy v) :
    ∃ failures breaker server, takeAll turns (v, s) = (failures, { v with breaker }, server) ∧
      breaker.IsUntroubled ∧ failures.length = turns.length ∧
      server.requests = List.replicate turns.length ⟨v.url.target, v.token⟩ ++ s.requests ∧
      ∀ e, some e ∈ failures → e.IsFinal := by
  induction turns generalizing v s with
  | nil => exact ⟨[], v.breaker, s, rfl, untroubled, rfl, rfl, fun e he => by cases he⟩
  | cons t turns ih =>
    obtain ⟨failure, breaker, htake, hbreaker, hfinal⟩ :=
      take_settled (s := s) untroubled (settled t (List.mem_cons_self ..))
    obtain ⟨failures, later, server, hrest, hlater, hlength, hrequests, hfinals⟩ :=
      ih (v := { v with breaker }) (s := v.asked (t.face s)) hbreaker
        fun u hu => settled u (List.mem_cons_of_mem _ hu)
    refine ⟨failure :: failures, later, server, ?_, hlater, ?_, ?_, ?_⟩
    · rw [takeAll_cons, htake]
      simp only [hrest]
    · rw [List.length_cons, hlength, List.length_cons]
    · rw [hrequests, List.length_cons, List.replicate_succ', List.append_assoc]
      rfl
    · intro e he
      rcases List.mem_cons.mp he with he | he
      · exact hfinal e he.symm
      · exact hfinals e he

end Turn

namespace Vault

/-- **Only failures that asking again may better count against the breaker.**  A fresh breaker in front of a
store that answers each question with a success status, whatever the body, or with 401, 403 or 404, stays
closed without a failure; each question is one request, and none fails for the breaker's or the store's
being unavailable.  And where a breaker refuses a question, no request is made. -/
theorem only_unavailability_counts (v : Vault) (s : Server) {began : Instant}
    (valid : v.breaker.settings.validate = .ok ())
    (fresh : v.breaker.circuit = Breaker.Circuit.start v.breaker.settings began)
    (turns : List Turn) (settled : ∀ t ∈ turns, t.IsSettledBy v) :
    (∃ failures breaker server, Turn.takeAll turns (v, s) = (failures, { v with breaker }, server) ∧
      (breaker.circuit.phase = .closed ∧ breaker.circuit.counts.failures = 0) ∧
      (∀ now, (breaker.poll now).circuit.phase = .closed ∧
        (breaker.poll now).circuit.counts.failures = 0) ∧
      failures.length = turns.length ∧
      server.requests = List.replicate turns.length ⟨v.url.target, v.token⟩ ++ s.requests ∧
      ∀ e, some e ∈ failures → e.IsFinal) ∧
    ∀ (w : Vault) (other : Server) (question : Question) (sent answered : Instant) (refusal),
      (w.breaker.acquire sent).2 = .error refusal →
      ∃ breaker, question.askOver sent answered (w, other) =
        (.error (.guarded (refusal.toCallError w.breaker.settings.name).flatten),
          { w with breaker }, other) := by
  have untroubled : v.breaker.IsUntroubled := by
    refine ⟨valid, ?_⟩
    rw [fresh]
    exact Breaker.Circuit.start_isUntroubled _ _
  obtain ⟨failures, breaker, server, htaken, hbreaker, hlength, hrequests, hfinal⟩ :=
    Turn.takeAll_settled (s := s) untroubled settled
  refine ⟨⟨failures, breaker, server, htaken, ⟨hbreaker.circuit.closed, hbreaker.circuit.none⟩,
    fun now => ⟨(hbreaker.poll now).circuit.closed, (hbreaker.poll now).circuit.none⟩,
    hlength, hrequests, hfinal⟩, ?_⟩
  intro w other question sent answered refusal hrefused
  refine ⟨(w.breaker.acquire sent).1, ?_⟩
  rw [Question.askOver_eq, readOver, ← Prod.eta (w.breaker.acquire sent), hrefused]
  rfl

/-- A breaker that one counted failure would open sees a missing secret, a body that is no JSON, a refused
token, a secret without keys and an answer without a body, some of them in a later window than their request.
Once the server cannot be reached the breaker opens, and the next question makes no request. -/
theorem only_unavailability_counts_in_refusals :
    let settings : Breaker.Settings := { name := "vault", minRequests := 1, window := Duration.ofSeconds 1 }
    let url : Url := ⟨"http", "localhost".toList, some 8200, "/v1/secret/keys".toList, none, none⟩
    let v : Vault := ⟨url, "secret/keys", some "token", Breaker.start settings 0⟩
    let s : Server := { response := ⟨404, []⟩ }
    let turns : List Turn :=
      [⟨.snapshot, 0, 10, ⟨404, []⟩⟩, ⟨.current, 20, 2000000000, ⟨200, Bytes.ofText "oops"⟩⟩,
        ⟨.versions, 2000000000, 4000000000, ⟨403, []⟩⟩,
        ⟨.key 1, 4000000001, 4000000002, ⟨200, Bytes.ofText "\x7b\"data\":\x7b\x7d\x7d"⟩⟩,
        ⟨.snapshot, 9000000000, 9000000001, ⟨204, []⟩⟩]
    let w : Vault := (Question.current.askOver 0 1 (v, { s with down := true })).2.1
    settings.validate = .ok () ∧ (∀ t ∈ turns, t.IsSettledBy v) ∧
      ∃ failures breaker server, Turn.takeAll turns (v, s) = (failures, { v with breaker }, server) ∧
        breaker.circuit.phase = .closed ∧ breaker.circuit.counts.failures = 0 ∧
        server.requests = List.replicate 5 ⟨"/v1/secret/keys", some "token"⟩ ∧
        failures = [some (.secretNotFound "secret/keys"),
          some (.invalidStructure "response is not JSON: error decoding response body"),
          some (.permissionDenied "secret/keys"), some (.invalidStructure "'keys' map missing"),
          some (.invalidStructure "response is not JSON: error decoding response body")] ∧
        (w.breaker.acquire 2).2 = .error .opened ∧
        ∃ breaker, Question.snapshot.askOver 2 3 (w, s) =
          (.error (.guarded (.circuitOpen "vault")), { w with breaker }, s) := by
  intro settings url v s turns w
  have valid : settings.validate = .ok () := by decide +kernel
  have settled : ∀ t ∈ turns, t.IsSettledBy v := by
    unfold Turn.IsSettledBy IsSettled
    decide +kernel
  obtain ⟨⟨failures, breaker, server, htaken, ⟨closed, none⟩, _, _, requests, _⟩, unasked⟩ :=
    only_unavailability_counts v s valid rfl turns settled
  have hfailures : (Turn.takeAll turns (v, s)).1 = [some (.secretNotFound "secret/keys"),
      some (.invalidStructure "response is not JSON: error decoding response body"),
      some (.permissionDenied "secret/keys"), some (.invalidStructure "'keys' map missing"),
      some (.invalidStructure "response is not JSON: error decoding response body")] := by
    decide +kernel
  have refused : (w.breaker.acquire 2).2 = .error .opened := by decide +kernel
  refine ⟨valid, settled, failures, breaker, server, htaken, closed, none, ?_, ?_, refused,
    unasked w s .snapshot 2 3 .opened refused⟩
  · rw [requests]
    decide +kernel
  · rw [← hfailures, htaken]

end Vault

end ProfileGuard.KeySource
