import ProfileGuard.Breaker.Basic
import ProfileGuard.Json.Value
import ProfileGuard.KeySource.Basic
import ProfileGuard.HttpStatus
import ProfileGuard.Url.Basic

/-!
# Keys from a secret store

A secret store answers one HTTP request with a document that names the current version and holds every
key.  Each question reads the document anew, through a breaker.  An answer that asking again cannot
better, such as a missing secret, is no failure of the store and does not count against it.

* **`KeySource.Document`** — the secret, with its keys and its current version.
* **`KeySource.Vault`** — the store as it is asked; `KeySource.Server` is the store as it answers.
* **`KeySource.Vault.snapshot`** — everything from one read.
* **`KeySource.Vault.reader`** — single answers, one read for each.
-/

namespace ProfileGuard.KeySource

/-! ### The document -/

/-- The members of the secret, in ascending order of their names. -/
abbrev Document := List (String × Json.Value)

namespace Document

/-- The secret in an answer: two levels down if the store keeps versions of secrets, else one. -/
def ofAnswer : Json.Value → Except Error Document
  | .object root =>
    match root.lookup "data" with
    | some (.object data) =>
      match data.lookup "data", data.lookup "metadata" with
      | some (.object inner), some _ => .ok inner
      | _, _ => .ok data
    | _ => .error (.invalidStructure "secret data is missing")
  | _ => .error (.invalidStructure "response is not an object")

/-- The keys by the names they are stored under. -/
def keys (d : Document) : Except Error (List (String × Json.Value)) :=
  match d.lookup "keys" with
  | some (.object keys) => .ok keys
  | _ => .error (.invalidStructure "'keys' map missing")

/-- The whole number that a double stands for, if it stands for one that is not negative. -/
def wholeNumber? (x : Float) : Option Nat :=
  if x.floor == x && x ≥ 0 then some x.toUInt64.toNat else none

/-- The number that names a version: a number, or a text with a number below `2 ^ 64`. -/
def versionNumber? : Json.Value → Option Nat
  | .number (.natural n) => some n.toNat
  | .number (.negative _) => none
  | .number (.double x) => wholeNumber? x
  | .string text => Text.Decimal.read? UInt64.size (Text.trimChars text.toList)
  | _ => none

/-- The current version. -/
def current (d : Document) : Except Error UInt32 :=
  match d.lookup "current_version" with
  | none => .error (.invalidStructure "current_version field missing")
  | some value =>
    match (versionNumber? value).filter fun n => 0 < n && n < UInt32.size with
    | some n => .ok (UInt32.ofNat n)
    | none => .error (.invalidStructure
        ("current_version has unexpected value: " ++ String.ofList value.render))

/-- The key of a version, stored under the decimal text of the version. -/
def keyAt (keys : List (String × Json.Value)) (version : UInt32) : Except Error Field.Key :=
  match keys.lookup (Text.Decimal.text version.toNat) with
  | none => .error (.versionNotFound version)
  | some (.string text) =>
    match Field.Key.ofBase64 text with
    | .ok key => .ok key
    | .error _ => .error (.invalidEncoding version)
  | some _ => .error (.invalidStructure s!"key version {version.toNat} is not a string")

/-- A version put in its place among versions in ascending order. -/
def insertVersion (version : UInt32) : List UInt32 → List UInt32
  | [] => [version]
  | v :: vs => if version ≤ v then version :: v :: vs else v :: insertVersion version vs

/-- The versions named by the keys, ascending; a name that is no number is skipped. -/
def versionsOf (keys : List (String × Json.Value)) : List UInt32 :=
  (keys.filterMap fun entry => Text.Decimal.readWord? entry.1.toList).foldr insertVersion []

/-- The keys of some versions, up to the first one that cannot be had. -/
def collect (keys : List (String × Json.Value)) (found : Field.KeyMap) :
    List UInt32 → Except Error Field.KeyMap
  | [] => .ok found
  | version :: versions => do
    let key ← keyAt keys version
    collect keys (found.put version key) versions

/-- All keys with the current version. -/
def snapshot (d : Document) : Except Error Snapshot := do
  let current ← d.current
  let keys ← d.keys
  return ⟨current, ← collect keys [] (versionsOf keys)⟩

end Document

/-! ### The server -/

/-- An answer of a server. -/
structure Response where
  status : Nat
  body : Bytes

/-- A request to a server. -/
structure Request where
  target : String
  token : Option String
  deriving DecidableEq

/-- A server that gives every request the same answer. -/
structure Server where
  response : Response
  /-- Whether it cannot be reached. -/
  down : Bool := false
  /-- The requests served, the latest first. -/
  requests : List Request := []

namespace Server

/-- The answer to a request, if the server can be reached. -/
def serve (s : Server) (request : Request) : Server × Option Response :=
  if s.down then (s, none)
  else ({ s with requests := request :: s.requests }, some s.response)

end Server

/-- The secret in the answer to a read of a path. -/
def Response.document (path : String) (r : Response) : Except Error Document :=
  if r.status = 404 then .error (.secretNotFound path)
  else if r.status = 401 ∨ r.status = 403 then .error (.permissionDenied path)
  else if !HttpStatus.isSuccess r.status then
    .error (.unavailable ("Vault returned " ++ HttpStatus.text r.status))
  else
    match if HttpStatus.hasBody r.status then Json.Value.read? r.body else none with
    | some answer => Document.ofAnswer answer
    | none => .error (.invalidStructure "response is not JSON: error decoding response body")

/-! ### The store -/

/-- A secret in a store, read through a breaker. -/
structure Vault where
  url : Url
  /-- The path of the secret, as errors show it. -/
  path : String
  /-- What the store knows us by. -/
  token : Option String
  breaker : Breaker

namespace Vault

/-- A text without the slashes at its end. -/
def dropSlashes (cs : List Char) : List Char := (cs.reverse.dropWhile (· == '/')).reverse

/-- A text without the slashes at its two ends. -/
def trimSlashes (text : String) : String :=
  String.ofList (dropSlashes (text.toList.dropWhile (· == '/')))

/-- The settings of a store's own breaker. -/
def breakerSettings : Breaker.Settings := { name := "vault" }

/-- The secret at a path of the store at an address. -/
def start (address token path : String) (breaker : Breaker.Settings) (now : Instant) :
    Except Error Vault :=
  let path := trimSlashes path
  let text := String.ofList (dropSlashes address.toList) ++ "/v1/" ++ path
  match Url.parse text with
  | .ok url => .ok {
      url, path
      token := if token = "" then none else some token
      breaker := Breaker.start breaker now }
  | .error e => .error (.guarded (.invalidInput ("invalid Vault address: " ++ e.message)))

/-- Whether a text can be sent as the value of a header. -/
def isHeaderValue (text : String) : Bool :=
  (Bytes.ofText text).all fun b => (0x20 ≤ b && b != 0x7F) || b == 0x09

/-- Whether the request can be sent at all. -/
def isSendable (v : Vault) : Bool := v.url.isRequestable && v.token.all isHeaderValue

/-- One request for the secret. -/
def fetch (v : Vault) (s : Server) : Server × Except Error Document :=
  if v.isSendable then
    match s.serve ⟨v.url.target, v.token⟩ with
    | (s, some response) =>
      (s, if HttpStatus.endsRequest response.status then response.document v.path
        else .error .unreachable)
    | (s, none) => (s, .error .unreachable)
  else (s, .error .unreachable)

/-- Whether an answer counts as a success of the store. -/
def isSuccess : Except Error Document → Bool
  | .ok _ => true
  | .error e => !e.isRetryable

/-- A store as it is asked, with the server that answers. -/
abbrev Asking := StateM (Vault × Server)

/-- Reads the secret, unless the breaker refuses.  The clock is taken to tell how long this breaker stays
open, so that it never breaks off. -/
def read (now : Instant) : Asking (Except Error Document) := fun (v, s) =>
  match v.breaker.acquire now with
  | (breaker, .ok generation) =>
    let (s, answer) := v.fetch s
    (answer, { v with breaker := breaker.record now generation (isSuccess answer) }, s)
  | (breaker, .error refusal) =>
    let failure := (refusal.toCallError breaker.settings.name).flatten
    (.error (.guarded failure), { v with breaker }, s)

/-- The key of a version. -/
def key (now : Instant) (version : UInt32) : Asking (Except Error Field.Key) := do
  let document ← read now
  return (document.bind Document.keys).bind fun keys => Document.keyAt keys version

/-- The current version. -/
def current (now : Instant) : Asking (Except Error UInt32) := do
  let document ← read now
  return document.bind Document.current

/-- The versions, ascending. -/
def versions (now : Instant) : Asking (Except Error (List UInt32)) := do
  let document ← read now
  return (document.bind Document.keys).map Document.versionsOf

/-- All keys with the current version, from one read. -/
def snapshot (now : Instant) : Asking (Except Error Snapshot) := do
  let document ← read now
  return document.bind Document.snapshot

/-- The single answers, one read for each. -/
def reader (now : Instant) : Reader Asking where
  key := key now
  current := current now
  versions := versions now

end Vault

end ProfileGuard.KeySource
