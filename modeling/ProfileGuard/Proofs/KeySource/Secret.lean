import Mathlib.Data.List.Sort
import ProfileGuard.KeySource.Vault
import ProfileGuard.Proofs.Field.Numbering
import ProfileGuard.Proofs.Json.Value
import ProfileGuard.Proofs.KeySource.Snapshot
import ProfileGuard.Proofs.Text.Base64
import ProfileGuard.Proofs.Text.Decimal
import ProfileGuard.Samples

/-!
# Keys in a secret

A secret holds its keys under their numbers in decimal, and an object keeps its members in the order of their
names, where `"10"` comes before `"2"`.  The reader takes the names for numbers again, puts these in order and
looks every key up by the decimal text of its number.  Nothing is lost, doubled or misnumbered on the way: the
keys come back as they were counted, up to the last number that fits a version.

* **`KeySource.Document.versionsOf_eq`** — the versions are the numbers among the names, in order.
* **`KeySource.Document.collect_append`** — the keys of ascending versions, collected.
* **`KeySource.Document.versionsOf_storedKeys`** / **`KeySource.Document.keyAt_storedKeys`** — the names and
  the keys of a written secret.
* **`KeySource.Document.snapshot_secret`** — the snapshot of a written secret.
-/

namespace ProfileGuard

namespace Field

/-- A key is read back from its text. -/
theorem Key.ofBase64_toBase64 (key : Key) : ofBase64 key.toBase64 = .ok key := by
  have htrim : Text.trim key.toBase64 = key.toBase64 := by
    rw [Text.trim, toBase64, Text.Base64.encode, String.toList_ofList,
      Text.trimChars_of_forall fun c => Text.Base64.isBlank_of_mem_encodeChars]
  have hdecode : Text.Base64.decode? key.toBase64 = some key.bytes := by
    rw [toBase64, Text.Base64.encode, Text.Base64.decode?, String.toList_ofList,
      Text.Base64.decodeChars?_encodeChars]
  rw [ofBase64, htrim, hdecode]
  exact dif_pos key.length_eq

end Field

namespace KeySource.Document

open ProfileGuard.Field

variable {d : Document} {keys : List (String × Json.Value)} {version current : UInt32}
  {texts : List String} {text : String} {key : Key} {found : KeyMap}

/-! ### Versions in order -/

theorem insertVersion_eq (version : UInt32) (versions : List UInt32) :
    insertVersion version versions = versions.orderedInsert (· ≤ ·) version := by
  induction versions with
  | nil => rfl
  | cons v versions ih => rw [insertVersion, List.orderedInsert_cons, ih]

theorem versionsOf_eq_insertionSort (keys : List (String × Json.Value)) :
    versionsOf keys =
      (keys.filterMap fun m => Text.Decimal.readWord? m.1.toList).insertionSort (· ≤ ·) := by
  rw [versionsOf]
  generalize (keys.filterMap fun m => Text.Decimal.readWord? m.1.toList) = given
  induction given with
  | nil => rfl
  | cons version given ih => rw [List.foldr_cons, ih, insertVersion_eq, List.insertionSort_cons]

/-- The versions are the numbers among the names, in whatever order these stand. -/
theorem versionsOf_perm (keys : List (String × Json.Value)) :
    (versionsOf keys).Perm (keys.filterMap fun m => Text.Decimal.readWord? m.1.toList) := by
  rw [versionsOf_eq_insertionSort]
  exact List.perm_insertionSort _ _

/-- The versions do not descend. -/
theorem versionsOf_pairwise (keys : List (String × Json.Value)) : (versionsOf keys).Pairwise (· ≤ ·) := by
  rw [versionsOf_eq_insertionSort]
  exact List.pairwise_insertionSort _ _

/-- The versions are the numbers among the names, in order. -/
theorem versionsOf_eq {versions : List UInt32}
    (named : (keys.filterMap fun m => Text.Decimal.readWord? m.1.toList).Perm versions)
    (ordered : versions.Pairwise (· ≤ ·)) : versionsOf keys = versions :=
  List.Perm.eq_of_pairwise (fun _ _ _ _ => UInt32.le_antisymm) (versionsOf_pairwise keys) ordered
    ((versionsOf_perm keys).trans named)

/-! ### Keys collected -/

/-- The keys collected so far, with those still to come. -/
theorem collect_append {before after : KeyMap} (ascending : (before ++ after).IsAscending)
    (held : ∀ entry ∈ after, keyAt keys entry.1 = .ok entry.2) :
    collect keys before after.versions = .ok (before ++ after) := by
  induction after generalizing before with
  | nil =>
    rw [List.append_nil]
    rfl
  | cons entry after ih =>
    obtain ⟨version, key⟩ := entry
    have hkey : keyAt keys version = .ok key := held _ List.mem_cons_self
    have hput : before.put version key = before ++ [(version, key)] := KeyMap.put_last key ascending.above
    rw [KeyMap.versions, List.map_cons, collect, hkey]
    show collect keys (before.put version key) (KeyMap.versions after) = _
    rw [hput, ih (by rwa [List.append_assoc]) fun entry h => held entry (List.mem_cons_of_mem _ h),
      List.append_assoc]
    rfl

/-- The snapshot of a document that holds a key for each of some ascending versions. -/
theorem snapshot_eq (hcurrent : d.current = .ok current) (hkeys : d.keys = .ok keys)
    (hversions : versionsOf keys = found.versions) (ascending : found.IsAscending)
    (held : ∀ entry ∈ found, keyAt keys entry.1 = .ok entry.2) :
    d.snapshot = .ok ⟨current, found⟩ := by
  have hcollect : collect keys [] found.versions = .ok found := collect_append ascending held
  rw [snapshot, hcurrent, hkeys]
  simp only [bind, Except.bind, hversions, hcollect]
  rfl

/-! ### Keys stored under their numbers -/

/-- The members of a secret's keys, as they are counted. -/
def numberedMembers (texts : List String) : List (String × Json.Value) :=
  texts.zipIdx.map fun (key, i) => (Text.Decimal.text (i + 1), .string key)

/-- The members of a secret's keys, in the order of their names. -/
def storedKeys (texts : List String) : List (String × Json.Value) :=
  Json.sortMembers (numberedMembers texts)

/-- The texts for which there are versions to number them. -/
def numberable (texts : List String) : List String := texts.take (UInt32.size - 1)

theorem length_numberable_lt (texts : List String) : (numberable texts).length < UInt32.size := by
  rw [numberable, List.length_take]
  exact Nat.lt_of_le_of_lt (Nat.min_le_left _ _) (by decide)

theorem names_numberedMembers (texts : List String) :
    (numberedMembers texts).map Prod.fst =
      (List.range texts.length).map fun i => Text.Decimal.text (i + 1) := by
  rw [numberedMembers, List.map_map, List.range_eq_range', ← List.zipIdx_map_snd, List.map_map]
  rfl

theorem nodup_numberedMembers (texts : List String) : ((numberedMembers texts).map Prod.fst).Nodup := by
  rw [names_numberedMembers]
  refine List.Nodup.map ?_ List.nodup_range
  exact Text.Decimal.text_injective.comp (add_left_injective 1)

/-- Of the numbers from one on, those that fit a version can be read. -/
theorem readable_numbers (n : Nat) :
    ((List.range n).filterMap fun i => Text.Decimal.readWord? (Text.Decimal.chars (i + 1))) =
      (List.range (min (UInt32.size - 1) n)).map fun i => 1 + UInt32.ofNat i := by
  have hsize : UInt32.size = 2 ^ 32 := rfl
  induction n with
  | zero => rfl
  | succ n ih =>
    rw [List.range_succ, List.filterMap_append, ih, List.filterMap_cons, List.filterMap_nil,
      Text.Decimal.readWord?_chars]
    by_cases h : n + 1 < UInt32.size
    · have hle : min (UInt32.size - 1) n = n := by omega
      have hsucc : min (UInt32.size - 1) (n + 1) = n + 1 := by omega
      rw [if_pos h, hle, hsucc, List.range_succ, List.map_append, UInt32.ofNat_add, UInt32.add_comm]
      rfl
    · have hsame : min (UInt32.size - 1) (n + 1) = min (UInt32.size - 1) n := by omega
      rw [if_neg h, hsame, List.append_nil]

/-- The versions of stored keys are those that counting gives. -/
theorem versionsOf_storedKeys (h : KeyMap.numbered 1 (numberable texts) = .ok found) :
    versionsOf (storedKeys texts) = found.versions := by
  refine versionsOf_eq ?_ ((KeyMap.numbered_isAscending h (length_numberable_lt texts)).imp UInt32.le_of_lt)
  have hperm : (storedKeys texts).Perm (numberedMembers texts) := by
    rw [storedKeys, Json.sortMembers_eq]
    exact Entries.ofList_perm (nodup_numberedMembers texts)
  refine (hperm.filterMap _).trans (List.Perm.of_eq ?_)
  have hnames : ((numberedMembers texts).filterMap fun m => Text.Decimal.readWord? m.1.toList) =
      ((numberedMembers texts).map Prod.fst).filterMap fun name => Text.Decimal.readWord? name.toList := by
    rw [List.filterMap_map]
    rfl
  rw [hnames, names_numberedMembers, List.filterMap_map, KeyMap.versions, KeyMap.versions_numbered h,
    numberable, List.length_take, ← readable_numbers]
  simp only [Function.comp_def, Text.Decimal.text, String.toList_ofList]

theorem lookup_storedKeys {i : Nat} (h : texts[i]? = some text) :
    (storedKeys texts).lookup (Text.Decimal.text (i + 1)) = some (.string text) := by
  have hmem : (Text.Decimal.text (i + 1), Json.Value.string text) ∈ (numberedMembers texts).reverse := by
    rw [List.mem_reverse, numberedMembers, List.mem_map]
    exact ⟨(text, i), List.mem_zipIdx_iff_getElem?.mpr h, rfl⟩
  have hnodup : ((numberedMembers texts).reverse.map Prod.fst).Nodup := by
    rw [List.map_reverse, List.nodup_reverse]
    exact nodup_numberedMembers texts
  rw [storedKeys, Json.lookup_sortMembers]
  exact Entries.lookup_of_mem hnodup hmem

/-- A stored key is found under its version. -/
theorem keyAt_storedKeys {i : Nat} (h : texts[i]? = some text) (fits : i + 1 < UInt32.size)
    (hkey : Key.ofBase64 text = .ok key) :
    keyAt (storedKeys texts) (1 + UInt32.ofNat i) = .ok key := by
  have hversion : (1 + UInt32.ofNat i).toNat = i + 1 := by
    have hsize : UInt32.size = 2 ^ 32 := rfl
    rw [UInt32.toNat_add, UInt32.toNat_ofNat', UInt32.toNat_one]
    omega
  rw [keyAt, hversion, lookup_storedKeys h]
  simp only [hkey]

/-! ### The whole secret -/

/-- The secret that holds these keys and this current version. -/
def secret (version : Json.Value) (texts : List String) : Document :=
  Json.sortMembers [("current_version", version), ("keys", Samples.keysObject texts)]

theorem keys_secret (version : Json.Value) (texts : List String) :
    (secret version texts).keys = .ok (storedKeys texts) := by
  have hlookup : (secret version texts).lookup "keys" = some (.object (storedKeys texts)) := by
    rw [secret, Json.lookup_sortMembers]
    rfl
  rw [keys, hlookup]

theorem current_secret {version : Json.Value} {n : Nat} (number : versionNumber? version = some n)
    (positive : 0 < n) (fits : n < UInt32.size) (texts : List String) :
    (secret version texts).current = .ok (UInt32.ofNat n) := by
  have hlookup : (secret version texts).lookup "current_version" = some version := by
    rw [secret, Json.lookup_sortMembers]
    rfl
  have hfilter : (some n).filter (fun n => 0 < n && n < UInt32.size) = some n := by
    simp [Option.filter, positive, fits]
  rw [Document.current, hlookup]
  simp only [number, hfilter]

/-- **The snapshot of a written secret** has the keys as they are counted. -/
theorem snapshot_secret {version : Json.Value} (number : versionNumber? version = some current.toNat)
    (positive : 0 < current) (h : KeyMap.numbered 1 (numberable texts) = .ok found) :
    (secret version texts).snapshot = .ok ⟨current, found⟩ := by
  have hcurrent := current_secret number (UInt32.lt_iff_toNat_lt.mp positive) current.toNat_lt texts
  rw [UInt32.ofNat_toNat] at hcurrent
  refine snapshot_eq hcurrent (keys_secret version texts) (versionsOf_storedKeys h)
    (KeyMap.numbered_isAscending h (length_numberable_lt texts)) fun entry hentry => ?_
  obtain ⟨i, text, htext, hversion, hkey⟩ := KeyMap.mem_numbered h hentry
  obtain ⟨hi, -⟩ := List.getElem?_eq_some_iff.mp htext
  have fits : i + 1 < UInt32.size := Nat.lt_of_le_of_lt hi (length_numberable_lt texts)
  rw [numberable, List.getElem?_take_of_lt (Nat.lt_sub_of_add_lt fits)] at htext
  rw [hversion]
  exact keyAt_storedKeys htext fits hkey

end KeySource.Document

end ProfileGuard
