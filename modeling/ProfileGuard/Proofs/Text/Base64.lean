import ProfileGuard.Text.Base64
import ProfileGuard.Text.Blank

/-!
# Base64 reads back

Writing never produces anything but symbols of the alphabet and padding, and reading takes back exactly
what was written.  Nothing else is read: a text that stands for bytes is the one that writing makes of them.

* **`Text.Base64.decodeChars?_encodeChars`** — the bytes of a written text are the bytes written.
* **`Text.Base64.decodeChars?_eq_some_iff`** — what is read was written.
* **`Text.Base64.ne_colon_of_mem_encodeChars`** — no written text has a colon in it, so that colons can
  stand between base64 parts.
* **`Text.Base64.isBlank_of_mem_encodeChars`** — nor has it a blank, so that it may stand between blanks.
-/

namespace ProfileGuard.Text.Base64

/-! ### Symbols -/

/-- A symbol is neither padding nor a colon: those two stand for no number. -/
theorem symbol_ne {n : Nat} (h : n < 64) {c : Char} (hc : sextet? c = none) : symbol n ≠ c := by
  intro heq
  have hn := sextet?_symbol h
  rw [heq, hc] at hn
  exact absurd hn (by simp)

theorem symbol_ne_padding {n : Nat} (h : n < 64) : symbol n ≠ '=' := symbol_ne h (by decide)

theorem symbol_ne_colon {n : Nat} (h : n < 64) : symbol n ≠ ':' := symbol_ne h (by decide)

/-! ### Three bytes as four numbers

The bytes are put together again from what the symbols stand for; what a byte shares a symbol with does
not matter. -/

theorem ofNat_first (a : UInt8) {k : Nat} (hk : k < 16) :
    UInt8.ofNat (a.toNat / 4 * 4 + (a.toNat % 4 * 16 + k) / 16) = a := by
  have h : a.toNat / 4 * 4 + (a.toNat % 4 * 16 + k) / 16 = a.toNat := by omega
  rw [h, UInt8.ofNat_toNat]

theorem ofNat_second (m : Nat) (b : UInt8) {k : Nat} (hk : k < 4) :
    UInt8.ofNat ((m * 16 + b.toNat / 16) % 16 * 16 + (b.toNat % 16 * 4 + k) / 4) = b := by
  have hb : b.toNat < 256 := b.toNat_lt
  have h : (m * 16 + b.toNat / 16) % 16 * 16 + (b.toNat % 16 * 4 + k) / 4 = b.toNat := by omega
  rw [h, UInt8.ofNat_toNat]

theorem ofNat_third (m : Nat) (c : UInt8) :
    UInt8.ofNat ((m * 4 + c.toNat / 64) % 4 * 64 + c.toNat % 64) = c := by
  have hc : c.toNat < 256 := c.toNat_lt
  have h : (m * 4 + c.toNat / 64) % 4 * 64 + c.toNat % 64 = c.toNat := by omega
  rw [h, UInt8.ofNat_toNat]

/-! ### Reading what was written -/

/-- The last group of four, when it holds one byte. -/
theorem decodeLast?_one (a : UInt8) :
    decodeLast? (symbol (a.toNat / 4)) (symbol (a.toNat % 4 * 16)) '=' '=' = some [a] := by
  have ha : a.toNat < 256 := a.toNat_lt
  have hfirst := ofNat_first a (k := 0) (by omega)
  simp only [Nat.add_zero] at hfirst
  simp only [decodeLast?, sextet?_symbol (show a.toNat / 4 < 64 by omega),
    sextet?_symbol (show a.toNat % 4 * 16 < 64 by omega), Option.bind_eq_bind, Option.bind_some,
    hfirst, if_true]
  rw [if_pos (by omega)]

/-- The last group of four, when it holds two bytes. -/
theorem decodeLast?_two (a b : UInt8) :
    decodeLast? (symbol (a.toNat / 4)) (symbol (a.toNat % 4 * 16 + b.toNat / 16))
      (symbol (b.toNat % 16 * 4)) '=' = some [a, b] := by
  have ha : a.toNat < 256 := a.toNat_lt
  have hb : b.toNat < 256 := b.toNat_lt
  have hsecond := ofNat_second (a.toNat % 4) b (k := 0) (by omega)
  simp only [Nat.add_zero] at hsecond
  simp only [decodeLast?, sextet?_symbol (show a.toNat / 4 < 64 by omega),
    sextet?_symbol (show a.toNat % 4 * 16 + b.toNat / 16 < 64 by omega),
    sextet?_symbol (show b.toNat % 16 * 4 < 64 by omega), Option.bind_eq_bind, Option.bind_some,
    ofNat_first a (show b.toNat / 16 < 16 by omega), hsecond, if_true,
    if_neg (symbol_ne_padding (show b.toNat % 16 * 4 < 64 by omega))]
  rw [if_pos (by omega)]

/-- The last group of four, when it holds three bytes. -/
theorem decodeLast?_three (a b c : UInt8) :
    decodeLast? (symbol (a.toNat / 4)) (symbol (a.toNat % 4 * 16 + b.toNat / 16))
      (symbol (b.toNat % 16 * 4 + c.toNat / 64)) (symbol (c.toNat % 64)) = some [a, b, c] := by
  have ha : a.toNat < 256 := a.toNat_lt
  have hb : b.toNat < 256 := b.toNat_lt
  have hc : c.toNat < 256 := c.toNat_lt
  simp only [decodeLast?, sextet?_symbol (show a.toNat / 4 < 64 by omega),
    sextet?_symbol (show a.toNat % 4 * 16 + b.toNat / 16 < 64 by omega),
    sextet?_symbol (show b.toNat % 16 * 4 + c.toNat / 64 < 64 by omega),
    sextet?_symbol (show c.toNat % 64 < 64 by omega), Option.bind_eq_bind, Option.bind_some,
    ofNat_first a (show b.toNat / 16 < 16 by omega),
    ofNat_second (a.toNat % 4) b (show c.toNat / 64 < 4 by omega), ofNat_third (b.toNat % 16) c,
    if_neg (symbol_ne_padding (show c.toNat % 64 < 64 by omega))]
  rfl

/-- Four symbols before further characters are three bytes before further bytes. -/
theorem decodeChars?_four (a b c : UInt8) {rest : List Char} (hrest : rest ≠ []) :
    decodeChars? (symbol (a.toNat / 4) :: symbol (a.toNat % 4 * 16 + b.toNat / 16) ::
        symbol (b.toNat % 16 * 4 + c.toNat / 64) :: symbol (c.toNat % 64) :: rest)
      = (decodeChars? rest).map fun bytes => a :: b :: c :: bytes := by
  have ha : a.toNat < 256 := a.toNat_lt
  have hb : b.toNat < 256 := b.toNat_lt
  have hc : c.toNat < 256 := c.toNat_lt
  obtain ⟨r, rs, rfl⟩ := List.exists_cons_of_ne_nil hrest
  simp only [decodeChars?, sextet?_symbol (show a.toNat / 4 < 64 by omega),
    sextet?_symbol (show a.toNat % 4 * 16 + b.toNat / 16 < 64 by omega),
    sextet?_symbol (show b.toNat % 16 * 4 + c.toNat / 64 < 64 by omega),
    sextet?_symbol (show c.toNat % 64 < 64 by omega), Option.bind_eq_bind, Option.bind_some,
    ofNat_first a (show b.toNat / 16 < 16 by omega),
    ofNat_second (a.toNat % 4) b (show c.toNat / 64 < 4 by omega), ofNat_third (b.toNat % 16) c]
  cases decodeChars? (r :: rs) <;> rfl

theorem encodeChars_ne_nil {bytes : Bytes} (h : bytes ≠ []) : encodeChars bytes ≠ [] := by
  fun_cases encodeChars bytes <;> simp_all

/-- **Base64 reads back.**  The bytes of a written text are the bytes written. -/
theorem decodeChars?_encodeChars (bytes : Bytes) : decodeChars? (encodeChars bytes) = some bytes := by
  fun_induction encodeChars bytes with
  | case1 => rfl
  | case2 a => exact decodeLast?_one a
  | case3 a b => exact decodeLast?_two a b
  | case4 a b c rest ih =>
    -- the last group is read by itself, since padding may only stand there
    by_cases hrest : rest = []
    · subst hrest
      exact decodeLast?_three a b c
    · rw [decodeChars?_four a b c (encodeChars_ne_nil hrest), ih]
      rfl

/-! ### What is read was written

Reading puts three bytes together from the numbers of four symbols.  Taking the bytes apart again gives
the same four numbers; where there is padding, because the bits left over were zero. -/

theorem symbol_of_sextet? {c : Char} {n : Nat} (h : sextet? c = some n) :
    n < 64 ∧ symbol n = c := by
  have hchar : ∀ k, k = c.toNat → Char.ofNat k = c := by
    rintro k rfl
    exact Char.ofNat_toNat c
  unfold sextet? at h
  dsimp only at h
  split at h
  · obtain rfl := Option.some.inj h
    refine ⟨by omega, ?_⟩
    rw [symbol, if_pos (by omega), hchar _ (by omega)]
  · split at h
    · obtain rfl := Option.some.inj h
      refine ⟨by omega, ?_⟩
      rw [symbol, if_neg (by omega), if_pos (by omega), hchar _ (by omega)]
    · split at h
      · obtain rfl := Option.some.inj h
        refine ⟨by omega, ?_⟩
        rw [symbol, if_neg (by omega), if_neg (by omega), if_pos (by omega), hchar _ (by omega)]
      · split at h
        · rename_i hplus
          obtain rfl := Option.some.inj h
          exact ⟨by decide, by rw [hplus]; rfl⟩
        · split at h
          · rename_i hslash
            obtain rfl := Option.some.inj h
            exact ⟨by decide, by rw [hslash]; rfl⟩
          · cases h

section Group

variable {p q r s : Nat} {w x y z : Char}

theorem toNat_first (hp : p < 64) (hq : q < 64) :
    (UInt8.ofNat (p * 4 + q / 16)).toNat = p * 4 + q / 16 :=
  UInt8.toNat_ofNat_of_lt' (show p * 4 + q / 16 < 256 by omega)

theorem toNat_second (hr : r < 64) :
    (UInt8.ofNat (q % 16 * 16 + r / 4)).toNat = q % 16 * 16 + r / 4 :=
  UInt8.toNat_ofNat_of_lt' (show q % 16 * 16 + r / 4 < 256 by omega)

theorem toNat_third (hs : s < 64) :
    (UInt8.ofNat (r % 4 * 64 + s)).toNat = r % 4 * 64 + s :=
  UInt8.toNat_ofNat_of_lt' (show r % 4 * 64 + s < 256 by omega)

theorem encodeChars_one (hw : sextet? w = some p) (hx : sextet? x = some q) (spare : q % 16 = 0) :
    encodeChars [UInt8.ofNat (p * 4 + q / 16)] = [w, x, '=', '='] := by
  obtain ⟨hp, rfl⟩ := symbol_of_sextet? hw
  obtain ⟨hq, rfl⟩ := symbol_of_sextet? hx
  have h1 : (p * 4 + q / 16) / 4 = p := by omega
  have h2 : (p * 4 + q / 16) % 4 * 16 = q := by omega
  rw [encodeChars, toNat_first hp hq, h1, h2]

theorem encodeChars_two (hw : sextet? w = some p) (hx : sextet? x = some q)
    (hy : sextet? y = some r) (spare : r % 4 = 0) :
    encodeChars [UInt8.ofNat (p * 4 + q / 16), UInt8.ofNat (q % 16 * 16 + r / 4)]
      = [w, x, y, '='] := by
  obtain ⟨hp, rfl⟩ := symbol_of_sextet? hw
  obtain ⟨hq, rfl⟩ := symbol_of_sextet? hx
  obtain ⟨hr, rfl⟩ := symbol_of_sextet? hy
  have h1 : (p * 4 + q / 16) / 4 = p := by omega
  have h2 : (p * 4 + q / 16) % 4 * 16 + (q % 16 * 16 + r / 4) / 16 = q := by omega
  have h3 : (q % 16 * 16 + r / 4) % 16 * 4 = r := by omega
  rw [encodeChars, toNat_first hp hq, toNat_second hr, h1, h2, h3]

/-- Four symbols are what writing makes of the three bytes that they are read as. -/
theorem encodeChars_three (hw : sextet? w = some p) (hx : sextet? x = some q)
    (hy : sextet? y = some r) (hz : sextet? z = some s) (rest : Bytes) :
    encodeChars (UInt8.ofNat (p * 4 + q / 16) :: UInt8.ofNat (q % 16 * 16 + r / 4) ::
      UInt8.ofNat (r % 4 * 64 + s) :: rest) = w :: x :: y :: z :: encodeChars rest := by
  obtain ⟨hp, rfl⟩ := symbol_of_sextet? hw
  obtain ⟨hq, rfl⟩ := symbol_of_sextet? hx
  obtain ⟨hr, rfl⟩ := symbol_of_sextet? hy
  obtain ⟨hs, rfl⟩ := symbol_of_sextet? hz
  have h1 : (p * 4 + q / 16) / 4 = p := by omega
  have h2 : (p * 4 + q / 16) % 4 * 16 + (q % 16 * 16 + r / 4) / 16 = q := by omega
  have h3 : (q % 16 * 16 + r / 4) % 16 * 4 + (r % 4 * 64 + s) / 64 = r := by omega
  have h4 : (r % 4 * 64 + s) % 64 = s := by omega
  rw [encodeChars, toNat_first hp hq, toNat_second hr, toNat_third hs, h1, h2, h3, h4]

end Group

theorem encodeChars_of_decodeLast? {w x y z : Char} {bytes : Bytes}
    (h : decodeLast? w x y z = some bytes) : encodeChars bytes = [w, x, y, z] := by
  unfold decodeLast? at h
  simp only [Option.bind_eq_bind, Option.bind_eq_some_iff] at h
  obtain ⟨p, hw, q, hx, h⟩ := h
  split at h
  · rename_i hz
    split at h
    · rename_i hy
      split at h
      · rename_i spare
        obtain rfl := Option.some.inj h
        rw [encodeChars_one hw hx spare, hy, hz]
      · cases h
    · simp only [Option.bind_eq_some_iff] at h
      obtain ⟨r, hr, h⟩ := h
      split at h
      · rename_i spare
        obtain rfl := Option.some.inj h
        rw [encodeChars_two hw hx hr spare, hz]
      · cases h
  · simp only [Option.bind_eq_some_iff] at h
    obtain ⟨r, hr, s, hs, h⟩ := h
    obtain rfl := Option.some.inj h
    exact encodeChars_three hw hx hr hs []

theorem encodeChars_of_decodeChars? {cs : List Char} {bytes : Bytes}
    (h : decodeChars? cs = some bytes) : encodeChars bytes = cs := by
  fun_induction decodeChars? cs generalizing bytes with
  | case1 =>
    obtain rfl := Option.some.inj h
    rfl
  | case2 w x y z => exact encodeChars_of_decodeLast? h
  | case3 w x y z rest _ ih =>
    simp only [Option.bind_eq_bind, Option.bind_eq_some_iff] at h
    obtain ⟨p, hw, q, hx, r, hy, s, hz, later, hlater, h⟩ := h
    obtain rfl := Option.some.inj h
    rw [encodeChars_three hw hx hy hz, ih hlater]
  | case4 => cases h

/-- **Base64 is canonical.**  A text is read as some bytes exactly if it is what writing makes of them. -/
theorem decodeChars?_eq_some_iff {cs : List Char} {bytes : Bytes} :
    decodeChars? cs = some bytes ↔ cs = encodeChars bytes := by
  constructor
  · intro h
    exact (encodeChars_of_decodeChars? h).symm
  · rintro rfl
    exact decodeChars?_encodeChars bytes

/-- Different bytes have different texts. -/
theorem encodeChars_injective : Function.Injective encodeChars := by
  intro bytes other h
  have hread := decodeChars?_encodeChars bytes
  rw [h, decodeChars?_encodeChars] at hread
  exact (Option.some.inj hread).symm

/-! ### The characters of a written text -/

/-- A written text is made of symbols and padding. -/
theorem eq_of_mem_encodeChars {bytes : Bytes} {x : Char} (h : x ∈ encodeChars bytes) :
    x = '=' ∨ ∃ n < 64, x = symbol n := by
  have bound : ∀ b : UInt8, b.toNat < 256 := fun b => b.toNat_lt
  fun_induction encodeChars bytes with
  | case1 => simp at h
  | case2 a =>
    have ha := bound a
    simp only [List.mem_cons, List.not_mem_nil, or_false] at h
    rcases h with h | h | h | h
    · exact .inr ⟨_, by omega, h⟩
    · exact .inr ⟨_, by omega, h⟩
    · exact .inl h
    · exact .inl h
  | case3 a b =>
    have ha := bound a
    have hb := bound b
    simp only [List.mem_cons, List.not_mem_nil, or_false] at h
    rcases h with h | h | h | h
    · exact .inr ⟨_, by omega, h⟩
    · exact .inr ⟨_, by omega, h⟩
    · exact .inr ⟨_, by omega, h⟩
    · exact .inl h
  | case4 a b c rest ih =>
    have ha := bound a
    have hb := bound b
    have hc := bound c
    simp only [List.mem_cons] at h
    rcases h with h | h | h | h | h
    · exact .inr ⟨_, by omega, h⟩
    · exact .inr ⟨_, by omega, h⟩
    · exact .inr ⟨_, by omega, h⟩
    · exact .inr ⟨_, by omega, h⟩
    · exact ih h

/-- No written text has a colon in it. -/
theorem ne_colon_of_mem_encodeChars {bytes : Bytes} {x : Char} (h : x ∈ encodeChars bytes) :
    x ≠ ':' := by
  rcases eq_of_mem_encodeChars h with rfl | ⟨n, hn, rfl⟩
  · decide
  · exact symbol_ne_colon hn

/-- No written text has a blank in it. -/
theorem isBlank_of_mem_encodeChars {bytes : Bytes} {x : Char} (h : x ∈ encodeChars bytes) :
    isBlank x = false := by
  rcases eq_of_mem_encodeChars h with rfl | ⟨n, hn, rfl⟩
  · rfl
  · have hsymbols : ∀ m : Fin 64, isBlank (symbol m.val) = false := by decide
    exact hsymbols ⟨n, hn⟩

end ProfileGuard.Text.Base64
