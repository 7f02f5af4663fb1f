import ProfileGuard.Json.Value
import ProfileGuard.Text.Base64

/-!
# Sample data

Keys, personal data and secret documents to try things out with.

* **`Samples.keySet`** — keys that can be told apart at a glance.
* **`Samples.secretV2`** / **`Samples.secretV1`** — the answers of a secret store to a read, with and
  without versioned secrets.
-/

namespace ProfileGuard.Samples

/-- A secret for keyed hashes. -/
def secret : String := "test-hmac-secret-0123456789abcdef-xyz"

/-- The key of a version: 32 bytes equal to the version. -/
def key (version : UInt8) : String := Text.Base64.encode (List.replicate 32 version)

/-- The keys of the versions from one on. -/
def keySet (count : Nat) : List String := (List.range count).map fun i => key (UInt8.ofNat (i + 1))

/-- Personal data. -/
def personalData : List String :=
  ["", "jane.doe@example.com", "+1 (555) 010-9999", "123-45-6789", "Rua São João, 42, Apto 7",
    "Zoë Ælfgifu Çelik", "東京都千代田区"]

/-- An object with these members. -/
def object (members : List (String × Json.Value)) : Json.Value := .object (Json.sortMembers members)

/-- A natural number. -/
def natural (n : Nat) : Json.Value := .number (.natural (UInt64.ofNat n))

/-- Keys under the numbers from one on. -/
def keysObject (keys : List String) : Json.Value :=
  object (keys.zipIdx.map fun (key, i) => (Text.Decimal.text (i + 1), .string key))

/-- The answer of a store that keeps versions of secrets. -/
def secretV2 (current : UInt32) (keys : List String) : Json.Value :=
  object
    [("request_id", .string "2a7b5d0c-0000-0000-0000-000000000000"), ("lease_id", .string ""),
      ("renewable", .bool false), ("lease_duration", natural 0),
      ("data", object
        [("data", object [("current_version", natural current.toNat), ("keys", keysObject keys)]),
          ("metadata", object
            [("created_time", .string "2026-01-01T00:00:00Z"), ("version", natural 3)])])]

/-- The answer of a store that keeps secrets without versions. -/
def secretV1 (current : UInt32) (keys : List String) : Json.Value :=
  object
    [("lease_id", .string ""), ("renewable", .bool false), ("lease_duration", natural 2764800),
      ("data", object
        [("current_version", .string (Text.Decimal.text current.toNat)),
          ("keys", keysObject keys)])]

end ProfileGuard.Samples
