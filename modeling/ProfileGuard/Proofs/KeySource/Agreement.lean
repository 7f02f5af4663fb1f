import ProfileGuard.Proofs.KeySource.Guarded
import ProfileGuard.Proofs.KeySource.Secret
import ProfileGuard.Proofs.Rotation.Loading

/-!
# A store and a fixed list agree

Written keys make a source at once, or they are put into a secret and a store answers with it.  The answer
wraps the secret in one level or two, and holds the current version as a number or as a text; either way the
store's snapshot is that of the fixed list.  Of a list so long that its numbers run out of versions, the store
gives the keys that have one.

* **`Samples.secretV2_isExact`** / **`Samples.secretV1_isExact`** — the answers are read as they were.
* **`KeySource.Document.ofAnswer_secretV2`** / **`KeySource.Document.ofAnswer_secretV1`** — the secret in
  them.
* **`KeySource.Vault.snapshot_of_answer`** — the snapshot of a store that gives an answer.
* **`KeySource.Static.versions_ofBase64`** / **`KeySource.Static.ofBase64_numberable`** — the fixed list.
* **`KeySource.Vault.snapshot_agrees`** — the two are the same.
-/

namespace ProfileGuard

/-! ### Written answers -/

namespace Samples

variable {depth : Nat} {members : List (String × Json.Value)}

theorem object_isExact (h : ∀ m ∈ members, m.2.IsExact depth) : (object members).IsExact (depth + 1) := by
  rw [object, Json.sortMembers_eq, Json.Value.IsExact, Json.Value.areExactMembers_iff]
  exact ⟨Nat.succ_pos _, Entries.ofList_isAscending members,
    fun m hm => h m (Entries.mem_of_mem_ofList hm)⟩

theorem keysObject_isExact (texts : List String) (depth : Nat) : (keysObject texts).IsExact (depth + 1) := by
  refine object_isExact fun m hm => ?_
  obtain ⟨entry, -, rfl⟩ := List.mem_map.mp hm
  trivial

theorem secretV2_isExact (current : UInt32) (texts : List String) : (secretV2 current texts).IsExact 127 := by
  refine object_isExact ?_
  simp only [List.forall_mem_cons, List.not_mem_nil, false_imp_iff, implies_true, and_true]
  refine ⟨trivial, trivial, trivial, trivial, object_isExact ?_⟩
  simp only [List.forall_mem_cons, List.not_mem_nil, false_imp_iff, implies_true, and_true]
  refine ⟨object_isExact ?_, object_isExact ?_⟩
  · simp only [List.forall_mem_cons, List.not_mem_nil, false_imp_iff, implies_true, and_true]
    exact ⟨trivial, keysObject_isExact texts _⟩
  · simp only [List.forall_mem_cons, List.not_mem_nil, false_imp_iff, implies_true, and_true]
    exact ⟨trivial, trivial⟩

theorem secretV1_isExact (current : UInt32) (texts : List String) : (secretV1 current texts).IsExact 127 := by
  refine object_isExact ?_
  simp only [List.forall_mem_cons, List.not_mem_nil, false_imp_iff, implies_true, and_true]
  refine ⟨trivial, trivial, trivial, object_isExact ?_⟩
  simp only [List.forall_mem_cons, List.not_mem_nil, false_imp_iff, implies_true, and_true]
  exact ⟨trivial, keysObject_isExact texts _⟩

end Samples

namespace KeySource

open ProfileGuard.Field

variable {texts : List String} {current : UInt32} {now : Instant} {generation : UInt64}

/-! ### The secret in an answer -/

namespace Document

/-- Two levels down, beside what the store keeps about the secret. -/
theorem ofAnswer_versioned {root data inner : List (String × Json.Value)} {metadata : Json.Value}
    (hdata : root.lookup "data" = some (.object data)) (hinner : data.lookup "data" = some (.object inner))
    (hmetadata : data.lookup "metadata" = some metadata) : ofAnswer (.object root) = .ok inner := by
  simp only [ofAnswer, hdata, hinner, hmetadata]

/-- One level down. -/
theorem ofAnswer_flat {root data : List (String × Json.Value)}
    (hdata : root.lookup "data" = some (.object data)) (hflat : data.lookup "data" = none) :
    ofAnswer (.object root) = .ok data := by
  simp only [ofAnswer, hdata, hflat]

/-- The secret of an answer with versions, which has the current version as a number. -/
theorem ofAnswer_secretV2 (current : UInt32) (texts : List String) :
    ofAnswer (Samples.secretV2 current texts) = .ok (secret (Samples.natural current.toNat) texts) := by
  exact ofAnswer_versioned (Json.lookup_sortMembers _ _) (Json.lookup_sortMembers _ _)
    (Json.lookup_sortMembers _ _)

/-- The secret of an answer without versions, which has the current version as a text. -/
theorem ofAnswer_secretV1 (current : UInt32) (texts : List String) :
    ofAnswer (Samples.secretV1 current texts) =
      .ok (secret (.string (Text.Decimal.text current.toNat)) texts) := by
  exact ofAnswer_flat (Json.lookup_sortMembers _ _) (Json.lookup_sortMembers _ _)

theorem versionNumber?_natural (version : UInt32) :
    versionNumber? (Samples.natural version.toNat) = some version.toNat := by
  have hsmall : version.toNat < 2 ^ 64 := Nat.lt_trans version.toNat_lt (by decide)
  rw [Samples.natural, versionNumber?, UInt64.toNat_ofNat', Nat.mod_eq_of_lt hsmall]

theorem versionNumber?_text (version : UInt32) :
    versionNumber? (.string (Text.Decimal.text version.toNat)) = some version.toNat := by
  have hsmall : version.toNat < UInt64.size := Nat.lt_trans version.toNat_lt (by decide)
  rw [versionNumber?, Text.Decimal.text, String.toList_ofList, Text.Decimal.trimChars_chars,
    Text.Decimal.read?_chars hsmall]

end Document

/-- What a server answers that sends a document. -/
def Response.ofJson (answer : Json.Value) : Response := ⟨200, Bytes.ofText (String.ofList answer.render)⟩

/-- The secret of a document that is sent. -/
theorem Response.document_ofJson {answer : Json.Value} {d : Document} (exact : answer.IsExact 127)
    (h : Document.ofAnswer answer = .ok d) (path : String) : (ofJson answer).document path = .ok d := by
  have hread : Json.Value.read? (ofJson answer).body = some answer := by
    rw [ofJson, Bytes.ofText_ofList]
    exact Json.Value.read?_render exact
  have hstatus : (ofJson answer).status = 200 := rfl
  have hsuccess : HttpStatus.isSuccess 200 = true := rfl
  have hbody : HttpStatus.hasBody 200 = true := rfl
  simp [Response.document, hstatus, hsuccess, hbody, hread, h]

/-- The snapshot of a store that sends a document, unless the breaker refuses. -/
theorem Vault.snapshot_of_answer {v : Vault} {s : Server} {answer : Json.Value} {d : Document}
    (exact : answer.IsExact 127) (h : Document.ofAnswer answer = .ok d) (sendable : v.isSendable = true)
    (up : s.down = false) (sent : s.response = .ofJson answer)
    (admitted : (v.breaker.acquire now).2 = .ok generation) :
    (Vault.snapshot now (v, s)).1 = d.snapshot := by
  have hfetch : v.fetch s = (v.asked s, .ok d) := by
    rw [Vault.fetch_eq sendable up (by rw [sent]; exact .inl rfl), sent, Response.document_ofJson exact h]
  have hread : (Vault.read now (v, s)).1 = .ok d := by
    rw [Vault.read, ← Prod.eta (v.breaker.acquire now), admitted]
    simp only [hfetch]
  show (Vault.read now (v, s)).1.bind Document.snapshot = d.snapshot
  rw [hread]
  rfl

/-! ### The fixed list -/

namespace Static

/-- The versions of a fixed list are the numbers from one on. -/
theorem versions_ofBase64 {source : Static} (h : ofBase64 texts current = .ok source)
    (short : texts.length < UInt32.size) :
    source.versions = (List.range texts.length).map fun i => 1 + UInt32.ofNat i := by
  have hkeys := keys_of_ofBase64 h
  obtain ⟨given, hgiven, -⟩ := Attempt.bind_eq_ok_iff.mp hkeys
  have hsame : source.keys = given :=
    Except.ok.inj (hkeys.symm.trans (KeyMap.ofBase64_of_numbered hgiven short))
  rw [versions, hsame]
  exact KeyMap.versions_numbered hgiven

/-- The source of the keys for which there are versions. -/
theorem ofBase64_numberable {found : List (UInt32 × Key)}
    (h : KeyMap.numbered 1 (Document.numberable texts) = .ok found) (positive : 0 < current)
    (within : current.toNat ≤ texts.length) :
    ofBase64 (Document.numberable texts) current = .ok ⟨found, current⟩ := by
  have hkeys := KeyMap.ofBase64_of_numbered h (Document.length_numberable_lt texts)
  have hcurrent : (KeyMap.get? found current).isSome := by
    have hsmall := current.toNat_lt
    have hpositive : 0 < current.toNat := UInt32.lt_iff_toNat_lt.mp positive
    have hsize : UInt32.size = 2 ^ 32 := rfl
    refine (KeyMap.isSome_get?_ofBase64 hkeys current).mpr ⟨current.toNat - 1, ?_, ?_⟩
    · rw [Document.numberable, List.length_take]
      omega
    · apply UInt32.toNat_inj.mp
      rw [UInt32.toNat_add, UInt32.toNat_ofNat', UInt32.toNat_one]
      omega
  cases found with
  | nil => cases hcurrent
  | cons entry found =>
    rw [ofBase64_eq hkeys, Option.isNone_eq_false_iff.mpr hcurrent]
    rfl

end Static

/-! ### The store and the list -/

namespace Vault

/-- **A store and a fixed list agree.**  Keys written in base64, however many and with any of them current,
make a source, and a store that answers with a secret of these keys, in either form, has the snapshot of that
source.  Beyond the last number that fits a version the store does not know a key. -/
theorem snapshot_agrees (accepted : ∀ text ∈ texts, ∃ key, Key.ofBase64 text = .ok key)
    (positive : 0 < current) (within : current.toNat ≤ texts.length) :
    ∃ source, Static.ofBase64 (Document.numberable texts) current = .ok source ∧
      (texts.length < UInt32.size → Static.ofBase64 texts current = .ok source) ∧
      source.snapshot = .ok ⟨current, source.keys⟩ ∧
      ∀ answer ∈ [Samples.secretV2 current texts, Samples.secretV1 current texts],
        ∀ (v : Vault) (s : Server) (now : Instant) (generation : UInt64), v.isSendable = true →
          s.down = false → s.response = .ofJson answer →
          (v.breaker.acquire now).2 = .ok generation →
          (Vault.snapshot now (v, s)).1 = .ok ⟨current, source.keys⟩ := by
  have acceptable : ∀ text ∈ Document.numberable texts, ∃ key, Key.ofBase64 text = .ok key :=
    fun text htext => accepted text (List.mem_of_mem_take htext)
  obtain ⟨found, hfound⟩ := KeyMap.exists_numbered 1 acceptable
  have hsource := Static.ofBase64_numberable hfound positive within
  refine ⟨⟨found, current⟩, hsource, ?_, ?_, ?_⟩
  · intro short
    rwa [Document.numberable, List.take_of_length_le (Nat.le_sub_one_of_lt short)] at hsource
  · exact Static.snapshot_eq _ (Static.ofBase64_isAscending hsource)
  · intro answer hanswer v s now generation sendable up sent admitted
    simp only [List.mem_cons, List.not_mem_nil, or_false] at hanswer
    rcases hanswer with rfl | rfl
    · rw [snapshot_of_answer (Samples.secretV2_isExact current texts)
        (Document.ofAnswer_secretV2 current texts) sendable up sent admitted]
      exact Document.snapshot_secret (Document.versionNumber?_natural current) positive hfound
    · rw [snapshot_of_answer (Samples.secretV1_isExact current texts)
        (Document.ofAnswer_secretV1 current texts) sendable up sent admitted]
      exact Document.snapshot_secret (Document.versionNumber?_text current) positive hfound

/-- Eleven keys, whose names are not in the order of their numbers, with the tenth current. -/
theorem snapshot_agrees_on_eleven_keys :
    let texts := (List.range 11).map fun i => (Key.ofNat (7 * i)).toBase64
    let url : Url := ⟨"http", "localhost".toList, some 8200, "/v1/secret/keys".toList, none, none⟩
    let v : Vault := ⟨url, "secret/keys", some "token", Breaker.start breakerSettings 0⟩
    let server (answer : Json.Value) : Server := { response := .ofJson answer }
    (∀ text ∈ texts, ∃ key, Key.ofBase64 text = .ok key) ∧
      (Document.storedKeys texts).map Prod.fst =
        ["1", "10", "11", "2", "3", "4", "5", "6", "7", "8", "9"] ∧
      ∃ source, Static.ofBase64 texts 10 = .ok source ∧
        source.versions = [1, 2, 3, 4, 5, 6, 7, 8, 9, 10, 11] ∧
        (Vault.snapshot 5 (v, server (Samples.secretV2 10 texts))).1 = source.snapshot ∧
        (Vault.snapshot 5 (v, server (Samples.secretV1 10 texts))).1 = source.snapshot := by
  intro texts url v server
  have accepted : ∀ text ∈ texts, ∃ key, Key.ofBase64 text = .ok key := by
    intro text htext
    obtain ⟨i, -, rfl⟩ := List.mem_map.mp htext
    exact ⟨_, Key.ofBase64_toBase64 _⟩
  have length : texts.length = 11 := by rw [List.length_map, List.length_range]
  have short : texts.length < UInt32.size := by
    rw [length]
    decide
  have sendable : v.isSendable = true := by decide +kernel
  have admitted : (v.breaker.acquire 5).2 = .ok 1 := by decide +kernel
  have within : (10 : UInt32).toNat ≤ texts.length := by
    rw [length]
    decide
  obtain ⟨source, -, loaded, hstatic, hstore⟩ := snapshot_agrees accepted (by decide) within
  refine ⟨accepted, by decide +kernel, source, loaded short, ?_, ?_, ?_⟩
  · rw [Static.versions_ofBase64 (loaded short) short, length]
    rfl
  · rw [hstatic]
    exact hstore _ List.mem_cons_self v _ 5 1 sendable rfl rfl admitted
  · rw [hstatic]
    exact hstore _ (List.mem_cons_of_mem _ List.mem_cons_self) v _ 5 1 sendable rfl rfl admitted

end Vault

end KeySource

end ProfileGuard
