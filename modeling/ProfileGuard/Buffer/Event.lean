import ProfileGuard.Json.Record
import ProfileGuard.Json.Writer
import ProfileGuard.Time.Timestamp

/-!
# Buffered events

An event that waits to be delivered, and its JSON form as overflow storage keeps it.

* **`Buffer.Event`** — the event.
* **`Buffer.Event.render`** / **`Buffer.Event.read?`** — its JSON form, and the reading of it.
-/

namespace ProfileGuard.Buffer

/-- An event that waits to be delivered. -/
structure Event where
  id : String
  topic : String
  /-- The partition key. -/
  key : String
  payload : Bytes
  /-- When the event was first buffered. -/
  created : Timestamp
  /-- Failed deliveries so far. -/
  retries : UInt32 := 0
  deriving DecidableEq

namespace Event

/-- The names of the fields in a JSON record, in their order. -/
def fieldNames : List String := ["id", "topic", "key", "payload", "created_at", "retries"]

/-- The JSON form: the payload is an array of numbers. -/
def render (e : Event) : List Char :=
  Json.Write.object
    [Json.Write.member "id" (Json.Write.quote e.id),
      Json.Write.member "topic" (Json.Write.quote e.topic),
      Json.Write.member "key" (Json.Write.quote e.key),
      Json.Write.member "payload"
        (Json.Write.array (e.payload.map fun b => Json.Write.natural b.toNat)),
      Json.Write.member "created_at" (Json.Write.quote (String.ofList e.created.render)),
      Json.Write.member "retries" (Json.Write.natural e.retries.toNat)]

/-- The JSON form as a text. -/
def text (e : Event) : String := String.ofList e.render

/-- The bytes given by an array of numbers below 256. -/
def payload? (tree : Json.Tree) : Option Bytes := do
  let items ← tree.items?
  items.mapM fun item => (item.natural? 256).map UInt8.ofNat

/-- The event that a record holds. -/
def ofTree? (tree : Json.Tree) : Option Event := do
  match ← Json.fields? fieldNames tree with
  | [some id, some topic, some key, some payload, some created, some retries] =>
    return {
      id := ← id.text?
      topic := ← topic.text?
      key := ← key.text?
      payload := ← payload? payload
      created := ← created.text?.bind Timestamp.read?
      retries := ← (retries.natural? UInt32.size).map UInt32.ofNat }
  | _ => none

/-- The event that a JSON document holds. -/
def read? (document : Bytes) : Option Event := (Json.Tree.read? document).bind ofTree?

end Event

end ProfileGuard.Buffer
