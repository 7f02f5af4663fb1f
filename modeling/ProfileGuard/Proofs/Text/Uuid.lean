import Mathlib.Data.List.Basic
import ProfileGuard.Proofs.Text.Hex
import ProfileGuard.Uuid

/-!
# Identifiers and their texts

An identifier is written by all of its digits in groups, a form that cannot be taken for another of
those that are read.

* **`Uuid.read?_text`** — an identifier is read from its text.
* **`Uuid.text_injective`** — different identifiers have different texts.
-/

namespace ProfileGuard.Uuid

/-! ### Groups of digits -/

theorem length_digits (u : Uuid) : u.digits.length = 32 := Text.Hex.length_fixed 32 _

/-- The groups, without the dashes between them, are all the digits. -/
theorem append_groups (ds : List Char) :
    ds.take 8 ++ (ds.drop 8).take 4 ++ (ds.drop 12).take 4 ++ (ds.drop 16).take 4 ++ ds.drop 20 =
      ds := by
  have h1 : (ds.drop 16).take 4 ++ ds.drop 20 = ds.drop 16 := by
    have h := List.take_append_drop 4 (ds.drop 16)
    rwa [List.drop_drop] at h
  have h2 : (ds.drop 12).take 4 ++ ds.drop 16 = ds.drop 12 := by
    have h := List.take_append_drop 4 (ds.drop 12)
    rwa [List.drop_drop] at h
  have h3 : (ds.drop 8).take 4 ++ ds.drop 12 = ds.drop 8 := by
    have h := List.take_append_drop 4 (ds.drop 8)
    rwa [List.drop_drop] at h
  simp only [List.append_assoc, h1, h2, h3, List.take_append_drop]

/-! ### Reading the groups -/

theorem ofDigits?_digits (u : Uuid) : ofDigits? u.digits = some u := by
  have hvalue : Text.Hex.value? u.digits = some u.bits.toNat := by
    rw [digits, Text.Hex.value?_fixed, Nat.mod_eq_of_lt]
    exact u.bits.isLt
  rw [ofDigits?, if_pos u.length_digits, hvalue, Option.map_some, BitVec.ofNat_toNat,
    BitVec.setWidth_eq]

/-- The groups are found where the dashes leave them. -/
theorem ofGroups?_group {ds : List Char} (h : ds.length = 32) :
    ofGroups? (group ds) = ofDigits? ds := by
  have hlength : (group ds).length = 36 := by simp [group, h]
  have hgroups : (group ds).take 8 ++ ((group ds).drop 9).take 4 ++ ((group ds).drop 14).take 4 ++
      ((group ds).drop 19).take 4 ++ (group ds).drop 24 = ds := by
    have h1 : (group ds).take 8 = ds.take 8 := by simp [group, h]
    have h2 : ((group ds).drop 9).take 4 = (ds.drop 8).take 4 := by
      simp [group, h, List.drop_append, List.drop_take]
    have h3 : ((group ds).drop 14).take 4 = (ds.drop 12).take 4 := by
      simp [group, h, List.drop_append, List.drop_take]
    have h4 : ((group ds).drop 19).take 4 = (ds.drop 16).take 4 := by
      simp [group, h, List.drop_append, List.drop_take]
    have h5 : (group ds).drop 24 = ds.drop 20 := by
      simp [group, h, List.drop_append, List.drop_take]
    rw [h1, h2, h3, h4, h5, append_groups]
  rw [ofGroups?]
  simp only [hgroups]
  rw [if_pos ⟨hlength, trivial⟩]

/-- Digits in groups do not begin like a resource name: their ninth character is a dash. -/
theorem take_group_ne_nameSpace {ds : List Char} (h : ds.length = 32) :
    ((group ds).take 9).map Char.toLower ≠ nameSpace := by
  intro hname
  have hdash : (group ds)[8]? = some '-' := by simp [group, h]
  have hninth := congrArg (fun cs => cs[8]?) hname
  simp only [List.getElem?_map, List.getElem?_take_of_lt (by decide : 8 < 9), hdash] at hninth
  exact absurd hninth (by decide)

/-- A written identifier does not begin with a brace. -/
theorem render_ne_brace (u : Uuid) (rest : List Char) : u.render ≠ '\x7b' :: rest := by
  intro hbrace
  obtain ⟨c, ds, hdigits⟩ := List.exists_cons_of_length_eq_add_one u.length_digits
  rw [render, hdigits] at hbrace
  have hc : c = '\x7b' := (List.cons.inj hbrace).1
  obtain ⟨d, hd, hdigit⟩ := Text.Hex.mem_fixed (hdigits ▸ List.mem_cons_self : c ∈ u.digits)
  have hvalue := Text.Hex.digitValue?_digit hd
  rw [← hdigit, hc] at hvalue
  exact absurd hvalue (by simp [Text.Hex.digitValue?])

/-- An identifier is read from its grouped digits. -/
theorem read?_text (u : Uuid) : read? u.text = some u := by
  have hlength : (group u.digits).length = 36 := by simp [group, u.length_digits]
  rw [read?, text, String.toList_ofList]
  unfold readChars?
  split
  next rest heq => exact absurd heq (u.render_ne_brace rest)
  next =>
    rw [render, if_neg (take_group_ne_nameSpace u.length_digits), if_neg (by omega),
      ofGroups?_group u.length_digits, ofDigits?_digits]

/-- Identifiers are told apart by their texts. -/
theorem text_injective {u v : Uuid} (h : u.text = v.text) : u = v := by
  have hread := u.read?_text
  rw [h, v.read?_text] at hread
  exact (Option.some.inj hread).symm

end ProfileGuard.Uuid
