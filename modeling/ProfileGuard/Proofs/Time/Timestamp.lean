import ProfileGuard.Proofs.Text.Decimal
import ProfileGuard.Proofs.Time.Calendar
import ProfileGuard.Time.Timestamp

/-!
# Written moments read back

The reader takes more forms than the writer makes.  On what the writer makes it has no choice: numbers of a
fixed width are read to that width, all others end at a character that is no digit, and no blanks are
skipped.

* **`Timestamp.number?_append`** — a number is read up to its width or up to what is no digit.
* **`Timestamp.date?_dateChars`**, **`Timestamp.time?_timeChars`** — the two halves of a written moment.
* **`Timestamp.ofParts?_self`** — date, time and leap second make up the moment again.
* **`Timestamp.read?_render`** — a moment is read from its RFC 3339 form.
-/

namespace ProfileGuard.Timestamp

/-! ### Numbers and separators -/

/-- What follows a number does not continue it. -/
def EndsNumber (rest : List Char) : Prop := ∀ c ∈ rest.head?, c.isDigit = false

theorem EndsNumber.cons {c : Char} (h : c.isDigit = false) (cs : List Char) :
    EndsNumber (c :: cs) := by
  intro d hd
  cases hd
  exact h

theorem takeWhile_isDigit_take {rest : List Char} (h : EndsNumber rest) (n : Nat) :
    (rest.take n).takeWhile Char.isDigit = [] := by
  cases rest with
  | nil => simp
  | cons c rest =>
    cases n with
    | zero => rfl
    | succ n => simp [h c rfl]

/-- Digits are read as a number if they fill its width or what follows them ends it. -/
theorem number?_append {most : Nat} {digits rest : List Char} (hsome : digits ≠ [])
    (hdigits : digits.all Char.isDigit = true) (hwidth : digits.length ≤ most)
    (hend : most ≤ digits.length ∨ EndsNumber rest) :
    number? most (digits ++ rest) = some (Text.Decimal.value digits, rest) := by
  have htaken : ((digits ++ rest).take most).takeWhile Char.isDigit = digits := by
    have hrest : (rest.take (most - digits.length)).takeWhile Char.isDigit = [] := by
      cases hend with
      | inl hfull => rw [Nat.sub_eq_zero_of_le hfull]; rfl
      | inr hend => exact takeWhile_isDigit_take hend _
    rw [List.take_append, List.take_of_length_le hwidth,
      List.takeWhile_append_of_pos (List.all_eq_true.1 hdigits), hrest, List.append_nil]
  rw [number?, htaken, if_neg hsome, List.drop_left]

theorem number?_padded {most : Nat} {rest : List Char} (width n : Nat)
    (hwidth : (Text.Decimal.padded width n).length ≤ most)
    (hend : most ≤ (Text.Decimal.padded width n).length ∨ EndsNumber rest) :
    number? most (Text.Decimal.padded width n ++ rest) = some (n, rest) := by
  rw [number?_append (Text.Decimal.padded_ne_nil width n) (Text.Decimal.all_isDigit_padded width n)
    hwidth hend, Text.Decimal.value_padded]

/-- A number that fills its width is read to that width whatever follows. -/
theorem number?_filled {width n : Nat} (hwidth : 0 < width) (h : n < 10 ^ width)
    (rest : List Char) :
    number? width (Text.Decimal.padded width n ++ rest) = some (n, rest) := by
  have hlength := Text.Decimal.length_padded hwidth h
  exact number?_padded width n hlength.le (Or.inl hlength.ge)

theorem longNumber?_padded {rest : List Char} (width n : Nat) (hend : EndsNumber rest) :
    longNumber? (Text.Decimal.padded width n ++ rest) = some (n, rest) :=
  number?_padded width n (by simp) (Or.inr hend)

/-- Digits begin with a digit, which is neither blank nor a sign. -/
theorem exists_cons_padded (width n : Nat) :
    ∃ c digits, Text.Decimal.padded width n = c :: digits ∧ c.isDigit = true := by
  have hdigits := Text.Decimal.all_isDigit_padded width n
  cases hpadded : Text.Decimal.padded width n with
  | nil => exact absurd hpadded (Text.Decimal.padded_ne_nil width n)
  | cons c digits =>
    rw [hpadded, List.all_cons, Bool.and_eq_true] at hdigits
    exact ⟨c, digits, rfl, hdigits.1⟩

theorem dropBlanks_padded (width n : Nat) (rest : List Char) :
    Text.dropBlanks (Text.Decimal.padded width n ++ rest) =
      Text.Decimal.padded width n ++ rest := by
  obtain ⟨c, digits, hpadded, hc⟩ := exists_cons_padded width n
  rw [hpadded, List.cons_append, Text.dropBlanks, List.dropWhile_cons, Text.isBlank_of_isDigit hc]
  rfl

theorem twoDigits?_padded {n : Nat} (h : n < 100) (rest : List Char) :
    twoDigits? (Text.Decimal.padded 2 n ++ rest) = some (n, rest) := by
  rw [twoDigits?, dropBlanks_padded, number?_filled (by decide) h]

/-! ### The date -/

/-- A written year is read back: four digits, or a sign and all digits up to what follows. -/
theorem year?_yearChars {rest : List Char} (year : Int) (hend : EndsNumber rest) :
    year? (yearChars year ++ rest) = some (year, rest) := by
  unfold yearChars
  by_cases hfour : 0 ≤ year ∧ year ≤ 9999
  · obtain ⟨c, digits, hpadded, hc⟩ := exists_cons_padded 4 year.toNat
    have hread := number?_filled (by decide : 0 < 4) (by omega : year.toNat < 10 ^ 4) rest
    rw [if_pos hfour, year?, dropBlanks_padded]
    rw [hpadded, List.cons_append] at hread ⊢
    split
    next heq =>
      rw [(List.cons.inj heq).1] at hc
      contradiction
    next heq =>
      rw [(List.cons.inj heq).1] at hc
      contradiction
    next =>
      rw [hread]
      show some ((year.toNat : Int), rest) = some (year, rest)
      rw [Int.toNat_of_nonneg hfour.1]
  · rw [if_neg hfour]
    by_cases hnegative : year < 0
    · have hvalue : -(year.natAbs : Int) = year := by omega
      rw [if_pos hnegative]
      show (longNumber? (Text.Decimal.padded 4 year.natAbs ++ rest)).map _ = _
      rw [longNumber?_padded 4 year.natAbs hend]
      show some (-(year.natAbs : Int), rest) = some (year, rest)
      rw [hvalue]
    · have hvalue : (year.natAbs : Int) = year := by omega
      rw [if_neg hnegative]
      show (longNumber? (Text.Decimal.padded 4 year.natAbs ++ rest)).map _ = _
      rw [longNumber?_padded 4 year.natAbs hend]
      show some ((year.natAbs : Int), rest) = some (year, rest)
      rw [hvalue]

/-- The first half of a written moment. -/
def dateChars (date : Calendar.Date) : List Char :=
  yearChars date.year ++ '-' :: Text.Decimal.padded 2 date.month ++
    '-' :: Text.Decimal.padded 2 date.day

theorem date?_dateChars {date : Calendar.Date} (h : Calendar.isDate date = true)
    (rest : List Char) : date? (dateChars date ++ rest) = some (date, rest) := by
  obtain ⟨hmonth, hday⟩ := Calendar.bounds_of_isDate h
  have hend (cs : List Char) : EndsNumber ('-' :: cs) := .cons rfl cs
  have hseparator (cs : List Char) : separator? '-' ('-' :: cs) = some cs := rfl
  simp only [dateChars, List.append_assoc, List.cons_append, date?, year?_yearChars _ (hend _),
    hseparator, twoDigits?_padded (by omega : date.month < 100),
    twoDigits?_padded (by omega : date.day < 100), Option.bind_eq_bind, Option.bind_some]
  rfl

/-! ### The time of day -/

/-- A fraction of at most nine digits is read as nanoseconds. -/
theorem nanos?_padded {width n : Nat} (hwidth : 0 < width) (hnine : width ≤ 9)
    (h : n < 10 ^ width) :
    nanos? (Text.Decimal.padded width n ++ ['Z']) = some (n * 10 ^ (9 - width), ['Z']) := by
  have hfilled := Text.Decimal.length_padded hwidth h
  have hlength : (Text.Decimal.padded width n ++ ['Z']).length - ['Z'].length = width := by
    rw [List.length_append, hfilled]
    exact Nat.add_sub_cancel width _
  have hread : number? 9 (Text.Decimal.padded width n ++ ['Z']) = some (n, ['Z']) :=
    number?_padded width n (by omega) (Or.inr (.cons rfl []))
  rw [nanos?, hread, Option.bind_eq_bind, Option.bind_some]
  show some (n * 10 ^ (9 - ((Text.Decimal.padded width n ++ ['Z']).length - ['Z'].length)), ['Z']) = _
  rw [hlength]

/-- A fraction that is written at all is read back from what follows its point. -/
theorem exists_fractionChars {nanos : Nat} (hsome : nanos ≠ 0) (h : nanos < nanosPerSecond) :
    ∃ cs, fractionChars nanos = '.' :: cs ∧ nanos? (cs ++ ['Z']) = some (nanos, ['Z']) := by
  rw [nanosPerSecond] at h
  rw [fractionChars, if_neg hsome]
  by_cases hmillis : nanos % 1000000 = 0
  · rw [if_pos hmillis]
    refine ⟨_, rfl, ?_⟩
    rw [nanos?_padded (by decide) (by decide) (by omega),
      (by omega : nanos / 1000000 * 10 ^ (9 - 3) = nanos)]
  · rw [if_neg hmillis]
    by_cases hmicros : nanos % 1000 = 0
    · rw [if_pos hmicros]
      refine ⟨_, rfl, ?_⟩
      rw [nanos?_padded (by decide) (by decide) (by omega),
        (by omega : nanos / 1000 * 10 ^ (9 - 6) = nanos)]
    · rw [if_neg hmicros]
      refine ⟨_, rfl, ?_⟩
      rw [nanos?_padded (by decide) (by decide) (by omega),
        (by omega : nanos * 10 ^ (9 - 9) = nanos)]

/-- The second half of a written moment. -/
def timeChars (hour minute second nanos : Nat) : List Char :=
  Text.Decimal.padded 2 hour ++ ':' :: Text.Decimal.padded 2 minute ++
    ':' :: Text.Decimal.padded 2 second ++ fractionChars nanos

theorem time?_timeChars {hour minute second nanos : Nat} (hhour : hour ≤ 23) (hminute : minute ≤ 59)
    (hsecond : second ≤ 60) (hnanos : nanos < nanosPerSecond) :
    time? (timeChars hour minute second nanos ++ ['Z']) =
      some ((hour, minute, second, nanos), ['Z']) := by
  have hseparator (cs : List Char) : separator? ':' (':' :: cs) = some cs := rfl
  have hvalid : ¬(23 < hour ∨ 59 < minute ∨ 60 < second) := by omega
  simp only [timeChars, List.append_assoc, List.cons_append, time?,
    twoDigits?_padded (by omega : hour < 100), twoDigits?_padded (by omega : minute < 100),
    twoDigits?_padded (by omega : second < 100), hseparator, Option.bind_eq_bind, Option.bind_some,
    if_neg hvalid]
  by_cases hnone : nanos = 0
  · subst hnone
    rfl
  · obtain ⟨cs, hchars, hread⟩ := exists_fractionChars hnone hnanos
    rw [hchars, List.cons_append]
    simp only [hread, Option.bind_some]
    rfl

/-! ### The moment -/

theorem of?_self (t : Timestamp) : of? t.seconds t.nanos = some t := dif_pos t.valid

theorem bounds (t : Timestamp) : firstDay ≤ t.seconds / 86400 ∧ t.seconds / 86400 ≤ lastDay ∧
    (t.nanos < nanosPerSecond ∨ t.nanos < 2 * nanosPerSecond ∧ t.seconds % 60 = 59) := by
  have hvalid := t.valid
  simpa [isMoment, and_assoc] using hvalid

/-- The second within its minute as it is written: 60 in a leap second. -/
def writtenSecond (t : Timestamp) : Nat :=
  (t.seconds % 86400).toNat % 60 + if nanosPerSecond ≤ t.nanos then 1 else 0

theorem render_eq (t : Timestamp) :
    t.render = dateChars (Calendar.dateOf (t.seconds / 86400)) ++ 'T' ::
      (timeChars ((t.seconds % 86400).toNat / 3600) ((t.seconds % 86400).toNat / 60 % 60)
        t.writtenSecond (t.nanos % nanosPerSecond) ++ ['Z']) := by
  simp only [render, dateChars, timeChars, writtenSecond, List.append_assoc, List.cons_append]

/-- The parts of a moment make it up again; second 60 stands for the leap second. -/
theorem ofParts?_self (t : Timestamp) :
    ofParts? (Calendar.dateOf (t.seconds / 86400))
      ((t.seconds % 86400).toNat / 3600, (t.seconds % 86400).toNat / 60 % 60, t.writtenSecond,
        t.nanos % nanosPerSecond) 0 = some t := by
  obtain ⟨hfirst, hlast, hnanos⟩ := t.bounds
  have hinside : ¬(Calendar.isDate (Calendar.dateOf (t.seconds / 86400)) = false ∨
      t.seconds / 86400 < firstDay ∨ lastDay < t.seconds / 86400) := by
    rw [Calendar.isDate_dateOf]
    simp only [Bool.true_eq_false, false_or]
    omega
  have hseconds {second : Nat} (h : (t.seconds % 86400).toNat % 60 = second) :
      t.seconds / 86400 * 86400 + (((t.seconds % 86400).toNat / 3600 : Nat) * 3600 +
        ((t.seconds % 86400).toNat / 60 % 60 : Nat) * 60 + (second : Nat)) - 0 = t.seconds := by
    omega
  rw [ofParts?, Calendar.dayNumber_dateOf]
  simp only [if_neg hinside]
  by_cases hleap : nanosPerSecond ≤ t.nanos
  · have hminute : (t.seconds % 86400).toNat % 60 = 59 := by omega
    have hsixty : t.writtenSecond = 60 := by rw [writtenSecond, hminute, if_pos hleap]
    have hwhole : t.nanos % nanosPerSecond + nanosPerSecond = t.nanos := by
      rw [Nat.mod_eq_sub_mod hleap, Nat.mod_eq_of_lt (by omega), Nat.sub_add_cancel hleap]
    rw [if_pos hsixty, if_pos hsixty, hwhole, hseconds hminute]
    exact of?_self t
  · have hbelow : t.writtenSecond = (t.seconds % 86400).toNat % 60 := by
      rw [writtenSecond, if_neg hleap, Nat.add_zero]
    have hsixty : t.writtenSecond ≠ 60 := by omega
    rw [if_neg hsixty, if_neg hsixty, hbelow, Nat.mod_eq_of_lt (by omega : t.nanos < nanosPerSecond),
      hseconds rfl]
    exact of?_self t

/-- A moment is read from its RFC 3339 form. -/
theorem read?_render (t : Timestamp) : read? (String.ofList t.render) = some t := by
  have hsecond : t.writtenSecond ≤ 60 := by
    unfold writtenSecond
    split <;> omega
  have hdate := Calendar.isDate_dateOf (t.seconds / 86400)
  have hnanos : t.nanos % nanosPerSecond < nanosPerSecond := Nat.mod_lt _ (by decide)
  have hT : ¬('T' ≠ 'T' ∧ 'T' ≠ 't' ∧ 'T' ≠ ' ') := by simp
  have hZ : offset? (Text.dropBlanks ['Z']) = some (0, []) := rfl
  rw [read?, String.toList_ofList, render_eq, readChars?, date?_dateChars hdate]
  simp only [Option.bind_eq_bind, Option.bind_some, if_neg hT]
  rw [time?_timeChars (by omega) (by omega) hsecond hnanos]
  simp only [Option.bind_some, hZ]
  exact ofParts?_self t

end ProfileGuard.Timestamp
