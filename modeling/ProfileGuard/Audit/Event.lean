import ProfileGuard.Audit.Error
import ProfileGuard.Audit.Vocabulary
import ProfileGuard.Digest.Hmac
import ProfileGuard.Json.Record
import ProfileGuard.Json.Writer
import ProfileGuard.Time.Timestamp
import ProfileGuard.Uuid

/-!
# Audit events

A signed record of who did what to whose data.  The signature is a keyed digest of the JSON form with an
empty signature, so that it covers every other field.

* **`Audit.Event`** — the record.
* **`Audit.Event.render`** / **`Audit.Event.read?`** — its JSON form, and the reading of it.
* **`Audit.Event.signature`** / **`Audit.Event.verify`** — the signature under a secret.
* **`Audit.Event.make`** — a new signed event.
-/

namespace ProfileGuard.Audit

/-- A record of an action. -/
structure Event where
  id : Uuid
  timestamp : Timestamp
  /-- The user whose data was touched. -/
  userId : String
  actorId : String
  actorKind : ActorKind
  action : Action
  resource : Resource
  resourceId : Option String
  /-- The names of changed fields, never their values. -/
  fieldsChanged : List String
  ipHash : String
  requestId : String
  /-- The calling service, if a service called. -/
  serviceName : Option String
  result : ResultCode
  failureReason : Option String
  /-- The signature in hexadecimal. -/
  hmac : String
  deriving DecidableEq

/-- What a new event is to say. -/
structure Draft where
  userId : String
  actorId : String
  actorKind : ActorKind
  action : Action
  resource : Resource
  resourceId : Option String
  fieldsChanged : List String
  ipHash : String
  requestId : String
  serviceName : Option String
  outcome : Outcome

namespace Event

/-- How the action ended; a reason that is not given is empty. -/
def outcome (e : Event) : Outcome :=
  match e.result with
  | .success => .success
  | .failure => .failure (e.failureReason.getD "")
  | .denied => .denied (e.failureReason.getD "")

/-! ### Writing -/

/-- A member that holds a text. -/
def textMember (name value : String) : List Char := Json.Write.member name (Json.Write.quote value)

/-- A member that holds a text, left out if there is none. -/
def optionalMember (name : String) : Option String → List (List Char)
  | some value => [textMember name value]
  | none => []

/-- The member that holds the changed fields, left out if there are none. -/
def changedMember : List String → List (List Char)
  | [] => []
  | names => [Json.Write.member "fields_changed" (Json.Write.array (names.map Json.Write.quote))]

/-- The members in their order. -/
def members (e : Event) : List (List Char) :=
  [textMember "event_id" e.id.text, textMember "timestamp" (String.ofList e.timestamp.render),
    textMember "user_id" e.userId, textMember "actor_id" e.actorId,
    textMember "actor_type" e.actorKind.word, textMember "action" e.action.word,
    textMember "resource" e.resource.word] ++
  optionalMember "resource_id" e.resourceId ++ changedMember e.fieldsChanged ++
  [textMember "ip_hash" e.ipHash, textMember "request_id" e.requestId] ++
  optionalMember "service_name" e.serviceName ++ [textMember "result" e.result.word] ++
  optionalMember "failure_reason" e.failureReason ++ [textMember "hmac" e.hmac]

/-- The JSON form. -/
def render (e : Event) : List Char := Json.Write.object e.members

/-- The JSON form as a text. -/
def text (e : Event) : String := String.ofList e.render

/-- The JSON form as bytes. -/
def toJson (e : Event) : Bytes := Bytes.ofText e.text

/-! ### Reading -/

/-- The names of the fields in a JSON record, in their order. -/
def fieldNames : List String :=
  ["event_id", "timestamp", "user_id", "actor_id", "actor_type", "action", "resource", "resource_id",
    "fields_changed", "ip_hash", "request_id", "service_name", "result", "failure_reason", "hmac"]

/-- A text that may be absent or null. -/
def optionalText? : Option Json.Tree → Option (Option String)
  | none => some none
  | some tree => tree.optional? Json.Tree.text?

/-- A list of texts that may be absent. -/
def texts? : Option Json.Tree → Option (List String)
  | none => some []
  | some tree => tree.items?.bind fun items => items.mapM Json.Tree.text?

/-- The event that a record holds. -/
def ofTree? (tree : Json.Tree) : Option Event := do
  match ← Json.fields? fieldNames tree with
  | [some id, some timestamp, some userId, some actorId, some actorKind, some action,
      some resource, resourceId, fieldsChanged, some ipHash, some requestId, serviceName,
      some result, failureReason, some hmac] =>
    return {
      id := ← id.text?.bind Uuid.read?
      timestamp := ← timestamp.text?.bind Timestamp.read?
      userId := ← userId.text?
      actorId := ← actorId.text?
      actorKind := ← actorKind.variant?.bind ActorKind.ofWord?
      action := ← action.variant?.bind Action.ofWord?
      resource := ← resource.variant?.bind Resource.ofWord?
      resourceId := ← optionalText? resourceId
      fieldsChanged := ← texts? fieldsChanged
      ipHash := ← ipHash.text?
      requestId := ← requestId.text?
      serviceName := ← optionalText? serviceName
      result := ← result.variant?.bind ResultCode.ofWord?
      failureReason := ← optionalText? failureReason
      hmac := ← hmac.text? }
  | _ => none

/-- The event that a JSON document holds.  Its signature is not looked at. -/
def read? (document : Bytes) : Option Event := (Json.Tree.read? document).bind ofTree?

/-! ### Signing -/

/-- The bytes that are signed: the JSON form with an empty signature. -/
def signedBytes (e : Event) : Bytes := { e with hmac := "" }.toJson

/-- The signature under a secret. -/
def signature (e : Event) (secret : Bytes) : String := Digest.hmacHex secret e.signedBytes

/-- Whether the event carries its signature under a secret. -/
def verify (e : Event) (secret : Bytes) : Bool := e.signature secret == e.hmac

/-- Checks that a field is not blank. -/
def require (value name : String) : Except Error Unit :=
  if Text.isBlankText value then .error (.missingField name) else .ok ()

/-- A new event, signed under a secret. -/
def make (secret : Bytes) (id : Uuid) (timestamp : Timestamp) (d : Draft) : Except Error Event := do
  require d.userId "user_id"
  require d.actorId "actor_id"
  require d.requestId "request_id"
  match d.outcome.reason? with
  | some reason => require reason "failure_reason"
  | none => pure ()
  let unsigned : Event := {
    id, timestamp
    userId := d.userId
    actorId := d.actorId
    actorKind := d.actorKind
    action := d.action
    resource := d.resource
    resourceId := d.resourceId
    fieldsChanged := d.fieldsChanged
    ipHash := d.ipHash
    requestId := d.requestId
    serviceName := d.serviceName
    result := d.outcome.code
    failureReason := d.outcome.reason?
    hmac := "" }
  return { unsigned with hmac := unsigned.signature secret }

end Event

/-- The keyed digest of a network address, as events carry it. -/
def hashAddress (address : String) (secret : Bytes) : String :=
  Digest.hmacHex secret (Bytes.ofText address)

end ProfileGuard.Audit
