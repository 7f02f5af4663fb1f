import ProfileGuard.Text.Hex

/-!
# Hexadecimal digits read back

* **`Text.Hex.length_fixed`** / **`Text.Hex.mem_fixed`** — so many digits and nothing else.
* **`Text.Hex.decode?_encode`** — bytes are read back from their digits.
* **`Text.Hex.encode_injective`** — different bytes have different digits.
-/

namespace ProfileGuard.Text.Hex

/-! ### Numbers -/

theorem length_fixed (width n : Nat) : (fixed width n).length = width := by
  induction width generalizing n with
  | zero => rfl
  | succ width ih => rw [fixed, List.length_append, ih]; rfl

theorem mem_fixed {width n : Nat} {c : Char} (h : c ∈ fixed width n) :
    ∃ d < 16, c = digit d := by
  induction width generalizing n with
  | zero => exact absurd h List.not_mem_nil
  | succ width ih =>
    rw [fixed, List.mem_append, List.mem_singleton] at h
    cases h with
    | inl h => exact ih h
    | inr h => exact ⟨n % 16, Nat.mod_lt n (by decide), h⟩

/-! ### Bytes -/

theorem decodeChars?_pairs (bytes : Bytes) : decodeChars? (bytes.flatMap pair) = some bytes := by
  induction bytes with
  | nil => rfl
  | cons b bytes ih =>
    have hb : b.toNat < 256 := b.toNat_lt
    have hhigh := digitValue?_digit (by omega : b.toNat / 16 < 16)
    have hlow := digitValue?_digit (by omega : b.toNat % 16 < 16)
    have hvalue : UInt8.ofNat (b.toNat / 16 * 16 + b.toNat % 16) = b := by
      rw [Nat.div_add_mod', UInt8.ofNat_toNat]
    rw [List.flatMap_cons, pair, List.cons_append, List.cons_append, List.nil_append,
      decodeChars?, hhigh, hlow, ih]
    simp only [Option.bind_eq_bind, Option.bind_some, hvalue]
    rfl

/-- Bytes are read back from their digits. -/
theorem decode?_encode (bytes : Bytes) : decode? (encode bytes) = some bytes := by
  rw [decode?, encode, String.toList_ofList, decodeChars?_pairs]

/-- Different bytes have different digits. -/
theorem encode_injective {xs ys : Bytes} (h : encode xs = encode ys) : xs = ys := by
  have hread := decode?_encode xs
  rw [h, decode?_encode ys] at hread
  exact (Option.some.inj hread).symm

end ProfileGuard.Text.Hex
