import ProfileGuard.Audit.Event
import ProfileGuard.Proofs.Attempt
import ProfileGuard.Proofs.Json.Record
import ProfileGuard.Proofs.Text.Uuid
import ProfileGuard.Proofs.Time.Timestamp

/-!
# Audit events survive their JSON form

An event is written as a record of fifteen fields, three texts and a list among them left out when there is
nothing to say.  Each field is read back from the way it is written, so the record as a whole is.

* **`Audit.Event.wireFields`** — the fields of an event as they are written.
* **`Audit.Event.read?_toJson`** — an event is read back from its JSON form.
* **`Audit.Event.trips`** — an event written and read back a number of times.
* **`Audit.Event.survives_wireForm`** — nothing about an event or its signature changes on the way.
-/

namespace ProfileGuard.Audit

/-! ### Words -/

theorem ActorKind.ofWord?_word (k : ActorKind) : ofWord? k.word = some k := by
  cases k <;> rfl

theorem Action.ofWord?_word (a : Action) : ofWord? a.word = some a := by
  cases a <;> rfl

theorem Resource.ofWord?_word (r : Resource) : ofWord? r.word = some r := by
  cases r <;> rfl

theorem ResultCode.ofWord?_word (r : ResultCode) : ofWord? r.word = some r := by
  cases r <;> rfl

namespace Event

open Json (Written given memberChars)

/-! ### Fields -/

/-- The changed fields as they are written, if there are any. -/
def writtenNames : List String → Option Written
  | [] => none
  | names => some (.array (names.map .text))

/-- The fields of an event as they are written. -/
def wireFields (e : Event) : List (String × Option Written) :=
  [("event_id", some (.text e.id.text)),
    ("timestamp", some (.text (String.ofList e.timestamp.render))),
    ("user_id", some (.text e.userId)), ("actor_id", some (.text e.actorId)),
    ("actor_type", some (.text e.actorKind.word)), ("action", some (.text e.action.word)),
    ("resource", some (.text e.resource.word)), ("resource_id", e.resourceId.map .text),
    ("fields_changed", writtenNames e.fieldsChanged), ("ip_hash", some (.text e.ipHash)),
    ("request_id", some (.text e.requestId)), ("service_name", e.serviceName.map .text),
    ("result", some (.text e.result.word)), ("failure_reason", e.failureReason.map .text),
    ("hmac", some (.text e.hmac))]

/-- A field as a member, if it has a value. -/
def wireMember (f : String × Option Written) : List (List Char) :=
  (f.2.map fun w => memberChars (f.1, w)).toList

theorem map_given (fields : List (String × Option Written)) :
    (given fields).map memberChars = fields.flatMap wireMember := by
  induction fields with
  | nil => rfl
  | cons f fields ih =>
    obtain ⟨name, value⟩ := f
    rw [List.flatMap_cons, ← ih]
    cases value <;> rfl

theorem wireMember_optional (name : String) (value : Option String) :
    wireMember (name, value.map .text) = optionalMember name value := by
  cases value <;> rfl

theorem wireMember_names (names : List String) :
    wireMember ("fields_changed", writtenNames names) = changedMember names := by
  cases names with
  | nil => rfl
  | cons name names =>
    show [Json.Write.member "fields_changed"
      (Json.Write.array (((name :: names).map Written.text).map Written.chars))] = _
    rw [List.map_map]
    rfl

/-- The members are the fields that have a value. -/
theorem members_eq (e : Event) : e.members = (given e.wireFields).map memberChars := by
  rw [map_given, members, ← wireMember_optional, ← wireMember_optional, ← wireMember_optional,
    ← wireMember_names]
  simp only [List.append_assoc, List.cons_append, List.nil_append]
  rfl

/-- The JSON form is a written object. -/
theorem toJson_eq (e : Event) :
    e.toJson = Bytes.ofChars (Written.object (given e.wireFields)).chars := by
  rw [toJson, text, Bytes.ofText_ofList, render, members_eq]
  rfl

/-! ### Reading the fields back -/

theorem variant?_text (text : String) : (Written.text text).tree.variant? = some text :=
  Json.Piece.text?_ofText text

theorem optionalText?_tree (value : Option String) :
    optionalText? ((value.map Written.text).map Written.tree) = some value := by
  cases value with
  | none => rfl
  | some text =>
    show (Written.text text).tree.text?.map some = _
    rw [Written.text?_tree]
    rfl

theorem texts?_tree (names : List String) :
    texts? ((writtenNames names).map Written.tree) = some names := by
  cases names with
  | nil => rfl
  | cons name names =>
    show (((name :: names).map Written.text).map Written.tree).mapM Json.Tree.text? = _
    rw [List.map_map]
    exact Json.mapM_map_eq_some Written.text?_tree (name :: names)

/-- An event is read back from its JSON form. -/
theorem read?_toJson (e : Event) : read? e.toJson = some e := by
  have hnames : e.wireFields.map Prod.fst = fieldNames := rfl
  rw [read?, toJson_eq, Written.read?_chars, Option.bind_some, ofTree?,
    Json.fields?_given hnames (by decide),
    Option.bind_eq_bind, Option.bind_some]
  simp only [wireFields, List.map_cons, List.map_nil, Option.map_some, Written.text?_tree, variant?_text,
    Option.bind_some, Uuid.read?_text, Timestamp.read?_render, ActorKind.ofWord?_word,
    Action.ofWord?_word, Resource.ofWord?_word, ResultCode.ofWord?_word, optionalText?_tree,
    texts?_tree]
  rfl

/-! ### Trips -/

/-- An event after it was written and read back a number of times, if it could be read each time. -/
def trips : Nat → Event → Option Event
  | 0, e => some e
  | n + 1, e => (read? e.toJson).bind (trips n)

theorem trips_eq (n : Nat) (e : Event) : trips n e = some e := by
  induction n with
  | zero => rfl
  | succ n ih => rw [trips, read?_toJson, Option.bind_some, ih]

/-! ### New events -/

/-- A new event carries the signature of what it says. -/
theorem exists_of_make_ok {secret : Bytes} {id : Uuid} {timestamp : Timestamp} {d : Draft}
    {e : Event} (h : make secret id timestamp d = .ok e) :
    ∃ said : Event, e = { said with hmac := said.signature secret } := by
  unfold make at h
  obtain ⟨-, -, h⟩ := Attempt.bind_eq_ok_iff.mp h
  obtain ⟨-, -, h⟩ := Attempt.bind_eq_ok_iff.mp h
  obtain ⟨-, -, h⟩ := Attempt.bind_eq_ok_iff.mp h
  -- a reason is looked at only if there is one
  cases hreason : d.outcome.reason? with
  | none =>
    rw [hreason] at h
    exact ⟨_, (Except.ok.inj h).symm⟩
  | some reason =>
    rw [hreason] at h
    obtain ⟨_, -, h⟩ := Attempt.bind_eq_ok_iff.mp h
    exact ⟨_, (Except.ok.inj h).symm⟩

/-- An event into which its signature is put verifies, as the signature is no part of what is signed. -/
theorem verify_withSignature (e : Event) (secret : Bytes) :
    { e with hmac := e.signature secret }.verify secret = true := by
  show (e.signature secret == e.signature secret) = true
  exact beq_self_eq_true _

theorem verify_of_make {secret : Bytes} {id : Uuid} {timestamp : Timestamp} {d : Draft} {e : Event}
    (h : make secret id timestamp d = .ok e) : e.verify secret = true := by
  obtain ⟨said, rfl⟩ := exists_of_make_ok h
  exact verify_withSignature said secret

/-- An event is read back from its JSON form as it was, every secret verifies it or not as before, and a
new event still verifies under its secret after any number of trips. -/
theorem survives_wireForm (e : Event) :
    read? e.toJson = some e ∧
    (∀ back secret, read? e.toJson = some back → back.verify secret = e.verify secret) ∧
    ∀ secret id timestamp draft n, make secret id timestamp draft = .ok e →
      ∃ back, trips n e = some back ∧ back.verify secret = true := by
  refine ⟨read?_toJson e, ?_, ?_⟩
  · intro back secret hread
    rw [read?_toJson] at hread
    rw [Option.some.inj hread]
  · intro secret id timestamp draft n hmake
    exact ⟨e, trips_eq n e, verify_of_make hmake⟩

theorem survives_wireForm_when_denied :
    let secret : Bytes := [0x6B, 0x65, 0x79]
    let draft : Draft := {
      userId := "u \"é\"\n"
      actorId := "a"
      actorKind := .service
      action := .update
      resource := .kycStatus
      resourceId := some ""
      fieldsChanged := ["name", "\\"]
      ipHash := ""
      requestId := "r"
      serviceName := none
      outcome := .denied "no" }
    ∃ e, make secret ⟨1⟩ .clockStart draft = .ok e ∧
      (∃ back, read? e.toJson = some back ∧ back.verify [] = e.verify []) ∧
      ∃ back, trips 3 e = some back ∧ back.verify secret = true := by
  have huser : require "u \"é\"\n" "user_id" = .ok () := rfl
  have hactor : require "a" "actor_id" = .ok () := rfl
  have hrequest : require "r" "request_id" = .ok () := rfl
  have hreason : require "no" "failure_reason" = .ok () := rfl
  intro secret draft
  obtain ⟨e, hmake⟩ : ∃ e, make secret ⟨1⟩ .clockStart draft = .ok e := by
    unfold make
    simp only [draft, huser, hactor, hrequest, Outcome.reason?, hreason]
    exact ⟨_, rfl⟩
  obtain ⟨hread, hverify, htrips⟩ := survives_wireForm e
  exact ⟨e, hmake, ⟨e, hread, hverify e [] hread⟩, htrips secret ⟨1⟩ .clockStart draft 3 hmake⟩

end Event

end ProfileGuard.Audit
