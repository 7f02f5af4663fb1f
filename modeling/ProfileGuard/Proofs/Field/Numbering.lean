import ProfileGuard.Proofs.Attempt
import ProfileGuard.Proofs.Field.KeyRing

/-!
# Keys numbered from one

A list of keys is given versions by counting, and the versions are words of 32 bits.  A list can be so long
that the count comes round to 0, but then it has met every other version on the way.

* **`Field.KeyMap.numbered_getElem?`** / **`Field.KeyMap.versions_numbered`** — the key that counting puts at a
  place, and the versions that it gives.
* **`Field.KeyMap.numbered_isAscending`** — the versions ascend as long as the count does not come round.
* **`Field.KeyMap.isSome_get?_ofList`** — keys given one after another are all there.
* **`Field.KeyMap.isSome_get?_of_zero`** — where counting gives version 0, it gives every version.
* **`Field.KeyMap.get?_ofBase64`** — and where it does not, each text is the key of its number.
-/

namespace ProfileGuard.Field.KeyMap

variable {first : UInt32} {texts : List String} {given : List (UInt32 × Key)}

/-! ### Counting -/

/-- Counting gives the first text the first version, and goes on. -/
theorem exists_of_numbered_cons {first : UInt32} {text : String} {texts : List String}
    {given : List (UInt32 × Key)} (h : numbered first (text :: texts) = .ok given) :
    ∃ key rest, Key.ofBase64 text = .ok key ∧ numbered (first + 1) texts = .ok rest ∧
      given = (first, key) :: rest := by
  obtain ⟨key, hkey, h⟩ := Attempt.bind_eq_ok_iff.mp h
  obtain ⟨rest, hrest, h⟩ := Attempt.bind_eq_ok_iff.mp h
  exact ⟨key, rest, hkey, hrest, (Except.ok.inj h).symm⟩

/-- The versions that counting gives. -/
theorem versions_numbered {first : UInt32} {texts : List String} {given : List (UInt32 × Key)}
    (h : numbered first texts = .ok given) :
    given.map Prod.fst = (List.range texts.length).map fun i => first + UInt32.ofNat i := by
  induction texts generalizing first given with
  | nil =>
    obtain rfl := Except.ok.inj h
    rfl
  | cons text texts ih =>
    obtain ⟨key, rest, -, hrest, rfl⟩ := exists_of_numbered_cons h
    have hnext (i : Nat) : first + 1 + UInt32.ofNat i = first + UInt32.ofNat (i + 1) := by
      rw [UInt32.ofNat_add, UInt32.add_assoc, UInt32.add_comm (UInt32.ofNat i)]
      rfl
    have hfirst : first + UInt32.ofNat 0 = first := UInt32.add_zero first
    rw [List.map_cons, ih hrest, List.length_cons, List.range_succ_eq_map, List.map_cons,
      List.map_map, hfirst]
    simp only [Function.comp_def, hnext]

/-- Texts that are keys can be counted. -/
theorem exists_numbered (first : UInt32) (accepted : ∀ text ∈ texts, ∃ key, Key.ofBase64 text = .ok key) :
    ∃ given, numbered first texts = .ok given := by
  induction texts generalizing first with
  | nil => exact ⟨[], rfl⟩
  | cons text texts ih =>
    obtain ⟨key, hkey⟩ := accepted text List.mem_cons_self
    obtain ⟨given, hgiven⟩ := ih (first + 1) fun text h => accepted text (List.mem_cons_of_mem _ h)
    refine ⟨(first, key) :: given, ?_⟩
    rw [numbered, hkey, hgiven]
    rfl

/-- Each text is counted, and its key stands at its place. -/
theorem numbered_getElem? (h : numbered first texts = .ok given) {i : Nat} {text : String}
    (htext : texts[i]? = some text) :
    ∃ key, Key.ofBase64 text = .ok key ∧ given[i]? = some (first + UInt32.ofNat i, key) := by
  induction texts generalizing first given i with
  | nil => cases htext
  | cons head texts ih =>
    obtain ⟨key, rest, hkey, hrest, rfl⟩ := exists_of_numbered_cons h
    cases i with
    | zero =>
      obtain rfl := Option.some.inj htext
      have hfirst : first + UInt32.ofNat 0 = first := UInt32.add_zero first
      rw [hfirst]
      exact ⟨key, hkey, rfl⟩
    | succ i =>
      obtain ⟨later, hlater, hgiven⟩ := ih hrest htext
      have hversion : first + UInt32.ofNat (i + 1) = first + 1 + UInt32.ofNat i := by
        rw [UInt32.ofNat_add, UInt32.add_assoc, UInt32.add_comm 1]
        rfl
      rw [hversion]
      exact ⟨later, hlater, hgiven⟩

/-- Each counted key is that of a text. -/
theorem mem_numbered (h : numbered first texts = .ok given) {entry : UInt32 × Key} (hentry : entry ∈ given) :
    ∃ i text, texts[i]? = some text ∧ entry.1 = first + UInt32.ofNat i ∧
      Key.ofBase64 text = .ok entry.2 := by
  obtain ⟨i, hi⟩ := List.mem_iff_getElem?.mp hentry
  obtain ⟨hlength, -⟩ := List.getElem?_eq_some_iff.mp hi
  have hsame : given.length = texts.length := by
    rw [← List.length_map, versions_numbered h, List.length_map, List.length_range]
  have htext : texts[i]? = some texts[i] := List.getElem?_eq_getElem (hsame ▸ hlength)
  obtain ⟨key, hkey, hplace⟩ := numbered_getElem? h htext
  obtain rfl := Option.some.inj (hi.symm.trans hplace)
  exact ⟨i, texts[i], htext, rfl, hkey⟩

/-! ### The map of counted keys -/

/-- Keys given one after another are all there, under their versions. -/
theorem isSome_get?_ofList (given : List (UInt32 × Key)) (version : UInt32) :
    ((ofList given).get? version).isSome ↔ version ∈ given.map Prod.fst := by
  rw [ofList_eq, get?, Entries.lookup_ofList, List.lookup_isSome_iff, List.mem_map]
  simp only [List.mem_reverse, beq_iff_eq, eq_comm (a := version)]

/-- Counting goes up as long as it does not come round. -/
theorem numbered_isAscending (h : numbered 1 texts = .ok given) (short : texts.length < UInt32.size) :
    IsAscending given := by
  rw [IsAscending, versions, versions_numbered h, List.pairwise_map]
  refine List.pairwise_lt_range.imp_of_mem ?_
  intro i j hi hj hij
  rw [List.mem_range] at hi hj
  have hsize : UInt32.size = 2 ^ 32 := rfl
  rw [UInt32.lt_iff_toNat_lt, UInt32.toNat_add, UInt32.toNat_add, UInt32.toNat_ofNat',
    UInt32.toNat_ofNat', UInt32.toNat_one]
  omega

/-- The map of written keys has them as they are counted. -/
theorem ofBase64_of_numbered (h : numbered 1 texts = .ok given) (short : texts.length < UInt32.size) :
    ofBase64 texts = .ok given := by
  rw [ofBase64, h]
  have hlist : ofList given = given := by
    rw [ofList_eq]
    exact Entries.ofList_of_isAscending (numbered_isAscending h short)
  exact congrArg Except.ok hlist

/-- Keys written in base64 have the versions from one on. -/
theorem isSome_get?_ofBase64 {texts : List String} {keys : KeyMap} (h : ofBase64 texts = .ok keys)
    (version : UInt32) :
    (keys.get? version).isSome ↔ ∃ i < texts.length, 1 + UInt32.ofNat i = version := by
  obtain ⟨given, hgiven, h⟩ := Attempt.bind_eq_ok_iff.mp h
  obtain rfl := Except.ok.inj h
  rw [isSome_get?_ofList, versions_numbered hgiven, List.mem_map]
  simp only [List.mem_range]

/-- Counting comes round to version 0 only after it has met every other version. -/
theorem isSome_get?_of_zero {texts : List String} {keys : KeyMap} (h : ofBase64 texts = .ok keys)
    (zero : (keys.get? 0).isSome) (version : UInt32) : (keys.get? version).isSome := by
  obtain ⟨i, hi, hzero⟩ := (isSome_get?_ofBase64 h 0).mp zero
  have hround : (1 + i) % 2 ^ 32 = 0 := by
    have hnat := congrArg UInt32.toNat hzero
    rw [UInt32.toNat_add, UInt32.toNat_ofNat', Nat.add_mod_mod] at hnat
    exact hnat
  have hlong : 2 ^ 32 ≤ texts.length := by omega
  have hversion := version.toNat_lt
  refine (isSome_get?_ofBase64 h version).mpr ⟨(version.toNat + (2 ^ 32 - 1)) % 2 ^ 32, by omega, ?_⟩
  apply UInt32.toNat_inj.mp
  rw [UInt32.toNat_add, UInt32.toNat_ofNat', UInt32.toNat_one]
  omega

/-- Keys written in base64 are in order, however many there are. -/
theorem ofBase64_isAscending {texts : List String} {keys : KeyMap} (h : ofBase64 texts = .ok keys) :
    keys.IsAscending := by
  obtain ⟨given, -, h⟩ := Attempt.bind_eq_ok_iff.mp h
  obtain rfl := Except.ok.inj h
  exact ofList_isAscending given

/-- A list without version 0 is not long enough for the count to come round. -/
theorem length_lt_of_no_zero {keys : KeyMap} (h : ofBase64 texts = .ok keys) (zero : keys.get? 0 = none) :
    texts.length < UInt32.size := by
  refine Nat.lt_of_not_le fun hlong => ?_
  have hsome := (isSome_get?_ofBase64 h 0).mpr ⟨UInt32.size - 1, Nat.lt_of_lt_of_le (by decide) hlong, rfl⟩
  rw [zero] at hsome
  cases hsome

/-- **Each text is the key of its number.**  In a map of written keys without version 0, the text at a place is
the key of the version that counts up to it. -/
theorem get?_ofBase64 {keys : KeyMap} (h : ofBase64 texts = .ok keys) (zero : keys.get? 0 = none) {i : Nat}
    {text : String} (htext : texts[i]? = some text) :
    i + 1 < UInt32.size ∧
      ∃ key, Key.ofBase64 text = .ok key ∧ keys.get? (1 + UInt32.ofNat i) = some key := by
  have hshort := length_lt_of_no_zero h zero
  obtain ⟨hi, -⟩ := List.getElem?_eq_some_iff.mp htext
  obtain ⟨given, hgiven, -⟩ := Attempt.bind_eq_ok_iff.mp h
  rw [ofBase64_of_numbered hgiven hshort] at h
  obtain rfl := Except.ok.inj h
  obtain ⟨key, hkey, hplace⟩ := numbered_getElem? hgiven htext
  have hmem := List.mem_of_getElem? hplace
  exact ⟨Nat.lt_of_le_of_lt hi hshort, key, hkey, (numbered_isAscending hgiven hshort).get?_of_mem hmem⟩

end ProfileGuard.Field.KeyMap
