import Mathlib.Data.List.DropRight
import ProfileGuard.Text.Blank

/-!
# Trimming and splitting

* **`Text.trim_around`** — blanks around a text make no difference to what is left of it.
* **`Text.trim_eq_empty_iff`** — nothing is left of a blank text, and of no other.
* **`Text.trim_lowerAscii`** — to trim and to make capitals small can be done in either order.
* **`Text.Lists`** / **`Text.Lists.splitChars_eq`** / **`Text.exists_lists`** — a text that lists some parts between
  commas, its parts again, and that every text is such a list.
-/

namespace ProfileGuard.Text

variable {cs : List Char} {before text after : String}

/-! ### Blanks -/

theorem dropBlanks_of_forall (h : ∀ c ∈ cs, isBlank c = false) : dropBlanks cs = cs := by
  cases cs with
  | nil => rfl
  | cons c cs =>
    rw [dropBlanks, List.dropWhile_cons, h c List.mem_cons_self]
    rfl

/-- Nothing is taken from a text without blanks. -/
theorem trimChars_of_forall (h : ∀ c ∈ cs, isBlank c = false) : trimChars cs = cs := by
  rw [trimChars, dropBlanks_of_forall h, dropBlanks_of_forall fun c hc => h c (List.mem_reverse.mp hc),
    List.reverse_reverse]

theorem dropBlanks_eq_nil_iff : dropBlanks cs = [] ↔ cs.all isBlank = true := by
  rw [dropBlanks, List.dropWhile_eq_nil_iff, List.all_eq_true]

theorem dropBlanks_append {blanks : List Char} (h : blanks.all isBlank = true) (cs : List Char) :
    dropBlanks (blanks ++ cs) = dropBlanks cs :=
  List.dropWhile_append_of_pos fun c hc => List.all_eq_true.mp h c hc

/-- Blanks around characters are taken away with those that were there before. -/
theorem trimChars_around {blanks others : List Char} (hblanks : blanks.all isBlank = true)
    (hothers : others.all isBlank = true) (cs : List Char) :
    trimChars (blanks ++ cs ++ others) = trimChars cs := by
  have hreverse : others.reverse.all isBlank = true := by rwa [List.all_reverse]
  rw [trimChars, trimChars, List.append_assoc, dropBlanks_append hblanks]
  by_cases hcs : dropBlanks cs = []
  · have hall : (cs ++ others).all isBlank = true := by
      rw [List.all_append, dropBlanks_eq_nil_iff.mp hcs, hothers]
      rfl
    rw [hcs, dropBlanks_eq_nil_iff.mpr hall]
  · have hleft : dropBlanks (cs ++ others) = dropBlanks cs ++ others := by
      have hempty : ¬ (dropBlanks cs).isEmpty = true := fun h => hcs (List.isEmpty_iff.mp h)
      exact List.dropWhile_append.trans (if_neg hempty)
    rw [hleft, List.reverse_append, dropBlanks_append hreverse]

/-- Blanks around a text make no difference to what is left of it. -/
theorem trim_around (hbefore : isBlankText before = true) (hafter : isBlankText after = true)
    (text : String) : trim (before ++ text ++ after) = trim text := by
  rw [trim, trim, String.toList_append, String.toList_append, trimChars_around hbefore hafter]

theorem isBlankText_around (hbefore : isBlankText before = true) (hafter : isBlankText after = true)
    (text : String) : isBlankText (before ++ text ++ after) = isBlankText text := by
  rw [isBlankText] at hbefore hafter
  rw [isBlankText, String.toList_append, String.toList_append, List.all_append, List.all_append, hbefore,
    hafter, Bool.true_and, Bool.and_true]
  rfl

/-- Nothing is left of a blank text, and of no other. -/
theorem trim_eq_empty_iff : trim text = "" ↔ isBlankText text = true := by
  have hempty : trim text = "" ↔ trimChars text.toList = [] := by
    rw [trim]
    exact ⟨fun h => String.ofList_injective h, fun h => congrArg String.ofList h⟩
  rw [hempty, trimChars, List.reverse_eq_nil_iff, dropBlanks_eq_nil_iff, List.all_reverse,
    ← dropBlanks_eq_nil_iff, isBlankText, ← dropBlanks_eq_nil_iff, dropBlanks, dropBlanks,
    List.dropWhile_idempotent]

/-! ### Capitals -/

/-- No blank lies between an ASCII letter and another. -/
theorem isBlank_of_between {c : Char} (hlow : 65 ≤ c.toNat) (hhigh : c.toNat ≤ 122) : isBlank c = false := by
  simp [isBlank]
  omega

theorem isBlank_toLower (c : Char) : isBlank c.toLower = isBlank c := by
  unfold Char.toLower
  split
  · rename_i h
    have hlow : 65 ≤ c.toNat := h.1
    have hhigh : c.toNat ≤ 90 := h.2
    have hsmall : (c.val + ('a'.val - 'A'.val)).toNat = c.toNat + 32 := by
      rw [UInt32.toNat_add]
      exact Nat.mod_eq_of_lt (by show c.toNat + 32 < 2 ^ 32; omega)
    rw [isBlank_of_between hlow (Nat.le_trans hhigh (by decide))]
    apply isBlank_of_between
    · exact hsmall.ge.trans' (Nat.le_add_right_of_le hlow)
    · exact hsmall.le.trans (Nat.add_le_add_right hhigh 32)
  · rfl

theorem isBlankText_lowerAscii (text : String) : isBlankText (lowerAscii text) = isBlankText text := by
  rw [isBlankText, lowerAscii, String.toList_ofList, List.all_map]
  exact congrArg _ (funext isBlank_toLower)

theorem dropBlanks_map_toLower (cs : List Char) :
    dropBlanks (cs.map Char.toLower) = (dropBlanks cs).map Char.toLower := by
  rw [dropBlanks, List.dropWhile_map]
  exact congrArg _ (congrArg (List.dropWhile · cs) (funext isBlank_toLower))

/-- To trim and to make capitals small can be done in either order. -/
theorem trim_lowerAscii (text : String) : trim (lowerAscii text) = lowerAscii (trim text) := by
  rw [trim, lowerAscii, lowerAscii, trim, String.toList_ofList, String.toList_ofList, trimChars, trimChars,
    dropBlanks_map_toLower, ← List.map_reverse, dropBlanks_map_toLower, List.map_reverse]

/-! ### Lists in a text -/

theorem splitChars_eq_splitOn (sep : Char) (cs : List Char) : splitChars sep cs = cs.splitOn sep := by
  rw [List.splitOn_eq_splitOnP]
  induction cs with
  | nil => rfl
  | cons c cs ih =>
    rw [splitChars, ih, List.splitOnP_cons_eq_if_modifyHead]
    by_cases hc : c = sep
    · simp [hc]
    · rw [if_neg hc, if_neg (by simpa using hc)]
      cases hparts : List.splitOnP (· == sep) cs with
      | nil => exact absurd hparts (List.splitOnP_ne_nil _ cs)
      | cons part parts => rfl

/-- The separator is in none of the parts. -/
theorem not_mem_of_mem_splitChars {sep : Char} {part : List Char} (h : part ∈ splitChars sep cs) :
    sep ∉ part := by
  induction cs generalizing part with
  | nil =>
    obtain rfl := List.mem_singleton.mp h
    exact List.not_mem_nil
  | cons c cs ih =>
    unfold splitChars at h
    split at h
    · rcases List.mem_cons.mp h with rfl | h
      · exact List.not_mem_nil
      · exact ih h
    · rename_i hc
      split at h
      · obtain rfl := List.mem_singleton.mp h
        simpa using Ne.symm hc
      · rename_i first parts hparts
        rw [hparts] at ih
        rcases List.mem_cons.mp h with rfl | h
        · rw [List.mem_cons, not_or]
          exact ⟨Ne.symm hc, ih List.mem_cons_self⟩
        · exact ih (List.mem_cons_of_mem _ h)

/-- The text has these parts between its commas. -/
structure Lists (text : String) (parts : List String) : Prop where
  eq : text = ",".intercalate parts
  noComma : ∀ part ∈ parts, ',' ∉ part.toList

/-- A text that lists some parts is split into them again. -/
theorem Lists.splitChars_eq {parts : List String} (h : Lists text parts) (hne : parts ≠ []) :
    splitChars ',' text.toList = parts.map String.toList := by
  rw [splitChars_eq_splitOn, h.eq, String.toList_intercalate]
  have hparts : ∀ part ∈ parts.map String.toList, ',' ∉ part := by
    intro part hpart
    obtain ⟨text, htext, rfl⟩ := List.mem_map.mp hpart
    exact h.noComma text htext
  exact List.splitOn_intercalate ',' hparts (by simpa using hne)

/-- Every text lists some parts. -/
theorem exists_lists (text : String) : ∃ parts, Lists text parts := by
  refine ⟨(splitChars ',' text.toList).map String.ofList, ?_, fun part hpart => ?_⟩
  · apply String.toList_inj.mp
    rw [String.toList_intercalate, List.map_map, splitChars_eq_splitOn]
    have hid : String.toList ∘ String.ofList = id := funext fun cs => String.toList_ofList
    rw [hid, List.map_id]
    exact (List.intercalate_splitOn ',').symm
  · obtain ⟨cs, hcs, rfl⟩ := List.mem_map.mp hpart
    rw [String.toList_ofList]
    exact not_mem_of_mem_splitChars hcs

end ProfileGuard.Text
