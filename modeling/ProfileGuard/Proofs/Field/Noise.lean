import Mathlib.Logic.Relation
import ProfileGuard.Field.Encryptor
import ProfileGuard.Field.Settings
import ProfileGuard.Proofs.Field.Numbering
import ProfileGuard.Proofs.Text.Trimming

/-!
# Noise in variables

People write variables in more than one way.  Blanks stand around numbers and after commas, a list ends with a
comma, a switch is in capitals, a variable is there without a value.  None of this changes what the settings are.

* **`Field.Settings.Kind`** / **`Field.Settings.readVariables`** — the nine variables, each with what it is.
* **`Field.Settings.Noise`** — a change of one value that is to make no difference.
* **`Field.Settings.Alike`** — variables that differ in noise only; other variables may be anything.
* **`Field.Settings.Kind.heard`** — what is heard of a value, and **`Field.Settings.Noise.heard_eq`** — that
  it is not the noise.
* **`Field.Settings.noise_ignored`** — variables that differ in noise only give the same settings, whose keys are
  the elements that are not blank, counted from version 1.
-/

namespace ProfileGuard.Field

namespace Settings

/-! ### Noise -/

/-- What a variable is. -/
inductive Kind where
  /-- Keys between commas. -/
  | keys
  | number
  /-- A word for on or off. -/
  | switch
  /-- A text that is taken as it stands. -/
  | text
  deriving DecidableEq

/-- The variables that are read. -/
def readVariables : List (String × Kind) :=
  [("ENCRYPTION_KEYS", .keys), ("ENCRYPTION_CURRENT_KEY_VERSION", .number), ("ENCRYPTION_HMAC_SECRET", .text),
    ("ENCRYPTION_KEY_ROTATION_DAYS", .number), ("ENCRYPTION_KEY_CHECK_INTERVAL_SECS", .number),
    ("VAULT_ENABLED", .switch), ("VAULT_ADDR", .text), ("VAULT_TOKEN", .text), ("VAULT_KEY_PATH", .text)]

/-- A change of the value of a variable that is to make no difference. -/
inductive Noise : Kind → Option String → Option String → Prop where
  /-- A blank value in place of none. -/
  | blank {kind : Kind} {text : String} (h : Text.isBlankText text = true) : Noise kind none (some text)
  /-- Blanks around a number or a switch. -/
  | around {kind : Kind} (hkind : kind = .number ∨ kind = .switch) (before value after : String)
      (hbefore : Text.isBlankText before = true) (hafter : Text.isBlankText after = true) :
      Noise kind (some value) (some (before ++ value ++ after))
  /-- Blanks around one of the keys. -/
  | aroundKey (first last : List String) {element before after value other : String}
      (hbefore : Text.isBlankText before = true) (hafter : Text.isBlankText after = true)
      (hvalue : Text.Lists value (first ++ element :: last))
      (hother : Text.Lists other (first ++ (before ++ element ++ after) :: last)) :
      Noise .keys (some value) (some other)
  /-- A blank element among the keys. -/
  | blankKey (first last : List String) {element value other : String}
      (helement : Text.isBlankText element = true) (hvalue : Text.Lists value (first ++ last))
      (hother : Text.Lists other (first ++ element :: last)) : Noise .keys (some value) (some other)
  /-- Other capitals in a switch. -/
  | capitals {value other : String} (h : Text.lowerAscii value = Text.lowerAscii other) :
      Noise .switch (some value) (some other)

/-- The variables that are read differ in noise only, added or taken away any number of times. -/
def Alike (lookup other : String → Option String) : Prop :=
  ∀ v ∈ readVariables, Relation.EqvGen (Noise v.2) (lookup v.1) (other v.1)

/-! ### What is heard -/

/-- What is heard of a value: the keys, or the one text that it comes to. -/
def Kind.heard (kind : Kind) (value : Option String) : List String :=
  let given := value.filter fun value => !Text.isBlankText value
  match kind with
  | keys => (given.map keysOf).getD []
  | number => (given.map Text.trim).toList
  | switch => (given.map fun value => Text.lowerAscii (Text.trim value)).toList
  | text => given.toList

variable {lookup other : String → Option String} {name value : String} {elements : List String} {s : Settings}

/-- The elements that are not blank. -/
def filled (elements : List String) : List String := elements.filter fun element => !Text.isBlankText element

/-- The keys in a list are its elements that are not blank, trimmed. -/
theorem keysOf_eq (h : Text.Lists value elements) : keysOf value = (filled elements).map Text.trim := by
  by_cases hne : elements = []
  · subst hne
    rw [h.eq]
    rfl
  · have htrim : ((fun text => text != "") ∘ Text.trim) = fun element => !Text.isBlankText element := by
      funext element
      rw [Function.comp, bne, Bool.not_inj_iff, Bool.eq_iff_iff, beq_iff_eq]
      exact Text.trim_eq_empty_iff
    rw [keysOf, h.splitChars_eq hne, List.map_map, filled, ← htrim, ← List.filter_map]
    rfl

/-- A blank value has no keys. -/
theorem keysOf_of_isBlankText (h : Text.isBlankText value = true) : keysOf value = [] := by
  have hlists : Text.Lists value [value] := by
    refine ⟨by simp, fun part hpart hcomma => ?_⟩
    obtain rfl := List.mem_singleton.mp hpart
    exact absurd (List.all_eq_true.mp h ',' hcomma) (by decide)
  rw [keysOf_eq hlists, filled, List.filter_cons_of_neg (by simpa using h)]
  rfl

theorem heard_keys (h : Text.Lists value elements) :
    Kind.keys.heard (some value) = (filled elements).map Text.trim := by
  rw [← keysOf_eq h, Kind.heard]
  by_cases hblank : Text.isBlankText value = true
  · rw [Option.filter_some_neg (by simpa using hblank), keysOf_of_isBlankText hblank]
    rfl
  · rw [Option.filter_some_pos (by simpa using hblank)]
    rfl

/-- **Noise is not heard.** -/
theorem Noise.heard_eq {kind : Kind} {given changed : Option String} (h : Noise kind given changed) :
    kind.heard given = kind.heard changed := by
  cases h with
  | @blank kind text h =>
    have hfilter : (some text).filter (fun value => !Text.isBlankText value) = none := by simp [h]
    cases kind <;> simp only [Kind.heard, hfilter] <;> rfl
  | around hkind before value after hbefore hafter =>
    have hblank := Text.isBlankText_around hbefore hafter value
    have htrim := Text.trim_around hbefore hafter value
    rcases hkind with rfl | rfl
    · simp only [Kind.heard, Option.filter_some, hblank]
      split <;> simp [htrim]
    · simp only [Kind.heard, Option.filter_some, hblank]
      split <;> simp [htrim]
  | aroundKey first last hbefore hafter hvalue hother =>
    rw [heard_keys hvalue, heard_keys hother]
    simp only [filled, List.filter_append, List.filter_cons, Text.isBlankText_around hbefore hafter]
    split <;> simp [Text.trim_around hbefore hafter]
  | blankKey first last helement hvalue hother =>
    rw [heard_keys hvalue, heard_keys hother]
    simp [filled, helement]
  | @capitals value other h =>
    have hblank : Text.isBlankText value = Text.isBlankText other := by
      rw [← Text.isBlankText_lowerAscii, h, Text.isBlankText_lowerAscii]
    have hlower : Text.lowerAscii (Text.trim value) = Text.lowerAscii (Text.trim other) := by
      rw [← Text.trim_lowerAscii, h, Text.trim_lowerAscii]
    simp only [Kind.heard, Option.filter_some, hblank]
    split <;> simp [hlower]

/-- However much noise there is, what is heard is the same. -/
theorem Alike.heard_eq (h : Alike lookup other) {v : String × Kind} (hv : v ∈ readVariables) :
    v.2.heard (lookup v.1) = v.2.heard (other v.1) := by
  have hnoise := h v hv
  generalize lookup v.1 = given at hnoise ⊢
  generalize other v.1 = changed at hnoise ⊢
  induction hnoise with
  | rel given changed hnoise => exact hnoise.heard_eq
  | refl given => rfl
  | symm given changed _ ih => exact ih.symm
  | trans given between changed _ _ ihfirst ihsecond => exact ihfirst.trans ihsecond

/-! ### What the settings depend on -/

/-- The number that is read is in what is heard of its variable. -/
theorem numberOr_eq_ok_iff {bound default n : Nat} : numberOr lookup name bound default = .ok n ↔
    ((Kind.number.heard (lookup name)).head?.elim (some default)
      fun word => Text.Decimal.read? bound word.toList) = some n := by
  rw [numberOr, given, Kind.heard]
  cases (lookup name).filter fun value => !Text.isBlankText value with
  | none => simp
  | some value =>
    cases hread : Text.Decimal.read? bound (Text.trimChars value.toList) with
    | none => simp [Text.trim, hread]
    | some n => simp [Text.trim, hread]

/-- A number that is read depends on what is heard of its variable. -/
theorem numberOr_of_heard {bound default n : Nat}
    (same : Kind.number.heard (lookup name) = Kind.number.heard (other name))
    (hread : numberOr lookup name bound default = .ok n) : numberOr other name bound default = .ok n := by
  rw [numberOr_eq_ok_iff] at hread ⊢
  rw [← same]
  exact hread

/-- So does a switch. -/
theorem switchOf_congr (h : Kind.switch.heard (lookup name) = Kind.switch.heard (other name)) :
    switchOf lookup name = switchOf other name := by
  have hword := congrArg List.head? h
  simp only [Kind.heard, Option.head?_toList] at hword
  rw [switchOf, switchOf, given, given]
  cases hvalue : (lookup name).filter fun value => !Text.isBlankText value with
  | none =>
    rw [hvalue, Option.map_none, eq_comm, Option.map_eq_none_iff] at hword
    rw [hword]
  | some value =>
    rw [hvalue, Option.map_some, eq_comm, Option.map_eq_some_iff] at hword
    obtain ⟨changed, hchanged, hsame⟩ := hword
    simp only [hchanged, hsame]

/-- A text is heard as it stands. -/
theorem given_congr (h : Kind.text.heard (lookup name) = Kind.text.heard (other name)) :
    given lookup name = given other name := by
  have hword := congrArg List.head? h
  simp only [Kind.heard, Option.head?_toList] at hword
  exact hword

/-- The settings depend on what is heard of the variables that are read. -/
theorem ofLookup_of_heard (same : ∀ v ∈ readVariables, v.2.heard (lookup v.1) = v.2.heard (other v.1))
    (loaded : ofLookup lookup = .ok s) : ofLookup other = .ok s := by
  obtain ⟨current, hcurrent, loaded⟩ := Attempt.bind_eq_ok_iff.mp loaded
  obtain ⟨days, hdays, loaded⟩ := Attempt.bind_eq_ok_iff.mp loaded
  obtain ⟨seconds, hseconds, loaded⟩ := Attempt.bind_eq_ok_iff.mp loaded
  obtain ⟨enabled, henabled, loaded⟩ := Attempt.bind_eq_ok_iff.mp loaded
  have hcurrent := numberOr_of_heard (same ("ENCRYPTION_CURRENT_KEY_VERSION", .number) (by decide)) hcurrent
  have hdays := numberOr_of_heard (same ("ENCRYPTION_KEY_ROTATION_DAYS", .number) (by decide)) hdays
  have hseconds := numberOr_of_heard (same ("ENCRYPTION_KEY_CHECK_INTERVAL_SECS", .number) (by decide)) hseconds
  have hswitch := switchOf_congr (same ("VAULT_ENABLED", .switch) (by decide))
  have hkeys : ((given lookup "ENCRYPTION_KEYS").map keysOf).getD [] =
      ((given other "ENCRYPTION_KEYS").map keysOf).getD [] := same ("ENCRYPTION_KEYS", .keys) (by decide)
  have hsecret := given_congr (same ("ENCRYPTION_HMAC_SECRET", .text) (by decide))
  have haddress := given_congr (same ("VAULT_ADDR", .text) (by decide))
  have htoken := given_congr (same ("VAULT_TOKEN", .text) (by decide))
  have hpath := given_congr (same ("VAULT_KEY_PATH", .text) (by decide))
  rw [hkeys, hsecret, haddress, htoken, hpath] at loaded
  rw [ofLookup, hcurrent, hdays, hseconds, ← hswitch, henabled]
  exact loaded

/-- The keys are what is heard of their variable. -/
theorem keys_of_ofLookup (loaded : ofLookup lookup = .ok s) :
    s.keys = Kind.keys.heard (lookup "ENCRYPTION_KEYS") := by
  obtain ⟨current, -, loaded⟩ := Attempt.bind_eq_ok_iff.mp loaded
  obtain ⟨days, -, loaded⟩ := Attempt.bind_eq_ok_iff.mp loaded
  obtain ⟨seconds, -, loaded⟩ := Attempt.bind_eq_ok_iff.mp loaded
  obtain ⟨enabled, -, loaded⟩ := Attempt.bind_eq_ok_iff.mp loaded
  rw [← Except.ok.inj loaded]
  rfl

/-- **Noise in variables is ignored.**  Variables that differ in noise only give the same settings.  Their keys
are the elements between the commas that are not blank, trimmed and in their order, however many there are, and an
encryptor of these keys has each of them under the version that counts up to it. -/
theorem noise_ignored (loaded : ofLookup lookup = .ok s) (alike : Alike lookup other) :
    ofLookup other = .ok s ∧
    ∀ value, lookup "ENCRYPTION_KEYS" = some value →
      (∃ elements, Text.Lists value elements) ∧
      ∀ elements, Text.Lists value elements →
        s.keys = (filled elements).map Text.trim ∧
        ∀ current secret e, Encryptor.ofBase64 s.keys current secret = .ok e →
          ∀ i element, (filled elements)[i]? = some element →
            i + 1 < UInt32.size ∧ ∃ key, Key.ofBase64 (Text.trim element) = .ok key ∧
              e.ring.keys.get? (1 + UInt32.ofNat i) = some key := by
  refine ⟨ofLookup_of_heard (fun v hv => alike.heard_eq hv) loaded, fun value hvalue => ?_⟩
  refine ⟨Text.exists_lists value, fun elements hlists => ?_⟩
  have hkeys : s.keys = (filled elements).map Text.trim := by
    rw [keys_of_ofLookup loaded, hvalue, heard_keys hlists]
  refine ⟨hkeys, fun current secret e hmade i element helement => ?_⟩
  obtain ⟨keys, hread, hmade⟩ := Attempt.bind_eq_ok_iff.mp hmade
  obtain ⟨ring, hring, hmade⟩ := Attempt.bind_eq_ok_iff.mp hmade
  obtain rfl := Except.ok.inj hmade
  obtain ⟨rfl, sound⟩ := KeyRing.make_spec hring
  have htext : s.keys[i]? = some (Text.trim element) := by
    rw [hkeys, List.getElem?_map, helement]
    rfl
  -- a ring has no version 0, so the count has not come round
  exact KeyMap.get?_ofBase64 hread sound.zero htext

/-- Two keys, a version and a switch, and the same with blanks, a comma too many and capitals, a blank address and
another variable beside them. -/
theorem noise_ignored_around_two_keys :
    let first := "AQEBAQEBAQEBAQEBAQEBAQEBAQEBAQEBAQEBAQEBAQE="
    let second := "AgICAgICAgICAgICAgICAgICAgICAgICAgICAgICAgI="
    let lookup (name : String) : Option String :=
      [("ENCRYPTION_KEYS", ",".intercalate [first, second]), ("ENCRYPTION_CURRENT_KEY_VERSION", "2"),
        ("VAULT_ENABLED", "no")].lookup name
    let noisy (name : String) : Option String :=
      [("ENCRYPTION_KEYS", ",".intercalate [first, " " ++ second ++ " ", ""]),
        ("ENCRYPTION_CURRENT_KEY_VERSION", " 2\n"), ("VAULT_ENABLED", "No"), ("VAULT_ADDR", "  "),
        ("HOME", "/")].lookup name
    let s : Settings := { keys := [first, second], current := 2 }
    ofLookup lookup = .ok s ∧ Alike lookup noisy ∧ ofLookup noisy = .ok s ∧
      ∃ e key, Encryptor.ofBase64 s.keys s.current [] = .ok e ∧ Key.ofBase64 second = .ok key ∧
        e.ring.keys.get? 2 = some key := by
  intro first second lookup noisy s
  have hoption : (ofLookup lookup).toOption = some s := by decide +kernel
  have loaded : ofLookup lookup = .ok s := by
    cases h : ofLookup lookup with
    | error e =>
      rw [h] at hoption
      cases hoption
    | ok given =>
      rw [h] at hoption
      exact congrArg _ (Option.some.inj hoption)
  have plain : Text.Lists (",".intercalate [first, second]) [first, second] := ⟨rfl, by decide +kernel⟩
  have spaced : Text.Lists (",".intercalate [first, " " ++ second ++ " "]) [first, " " ++ second ++ " "] :=
    ⟨rfl, by decide +kernel⟩
  have closed : Text.Lists (",".intercalate [first, " " ++ second ++ " ", ""])
      [first, " " ++ second ++ " ", ""] :=
    ⟨rfl, by decide +kernel⟩
  have alike : Alike lookup noisy := by
    have hkeys : Relation.EqvGen (Noise .keys) (lookup "ENCRYPTION_KEYS") (noisy "ENCRYPTION_KEYS") :=
      .trans _ _ _
        (.rel _ _ (.aroundKey [first] [] (by decide) (by decide) plain spaced))
        (.rel _ _ (.blankKey [first, " " ++ second ++ " "] [] (by decide) spaced closed))
    have hversion : Noise .number (some "2") (some " 2\n") :=
      .around (.inl rfl) " " "2" "\n" (by decide) (by decide)
    have hswitch : Noise .switch (some "no") (some "No") := .capitals (by decide)
    have haddress : Noise .text none (some "  ") := .blank (by decide)
    simp only [Alike, readVariables, List.forall_mem_cons]
    exact ⟨hkeys, .rel _ _ hversion, .refl none, .refl none, .refl none, .rel _ _ hswitch, .rel _ _ haddress,
      .refl none, .refl none, List.forall_mem_nil _⟩
  obtain ⟨hsame, hkeys⟩ := noise_ignored loaded alike
  have hmakes : (Encryptor.ofBase64 s.keys s.current []).isOk := by decide +kernel
  cases hmade : Encryptor.ofBase64 s.keys s.current [] with
  | error e =>
    rw [hmade] at hmakes
    cases hmakes
  | ok e =>
    obtain ⟨-, hplaces⟩ := (hkeys _ rfl).2 _ plain
    have hsecond : filled [first, second] = [first, second] := by decide +kernel
    have htrim : Text.trim second = second := by decide +kernel
    obtain ⟨-, key, hkey, hget⟩ := hplaces s.current [] e hmade 1 second (by rw [hsecond]; rfl)
    rw [htrim] at hkey
    exact ⟨loaded, alike, hsame, e, key, rfl, hkey, hget⟩

end Settings

end ProfileGuard.Field
