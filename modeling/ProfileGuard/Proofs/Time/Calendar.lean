import Mathlib.Tactic.IntervalCases
import ProfileGuard.Time.Calendar

/-!
# Days and dates are the same thing counted twice

Finding the date of a day divides by the lengths of years with corrections for leap days.  Both
directions are taken apart at the same joint: a day of an era is a day of one of its 400 years, and a day of
a year that begins in March is a day of one of its months.

* **`Calendar.FallsIn`** — a day of an era as a day of one of its years.
* **`Calendar.ofMarch`** — the date of a day of a month, years beginning in March.
* **`Calendar.dayNumber_dateOf`** — the date found for a day is counted as that day.
* **`Calendar.isDate_dateOf`** — the date found for a day is a date.
-/

namespace ProfileGuard.Calendar

/-! ### Years of an era -/

/-- Day `n` of an era is day `day` of the era's year `year`, all counted from nought. -/
structure FallsIn (n year day : Nat) : Prop where
  year_lt : year < 400
  day_le : day ≤ 365
  count : n = 365 * year + year / 4 - year / 100 + day
  /-- Only a year that ends in a leap year's February has a day 365. -/
  leap : day = 365 → (year + 1) % 4 = 0 ∧ ((year + 1) % 100 = 0 → (year + 1) % 400 = 0)

/-- A day of an era falls in one of its years. -/
theorem exists_fallsIn {n : Nat} (h : n < 146097) : ∃ year day, FallsIn n year day := by
  -- the last century and the last year of four keep the extra day that a division would cut off
  let century := min (n / 36524) 3
  let span := (n - 36524 * century) / 1461
  let year := min ((n - 36524 * century) % 1461 / 365) 3
  have hspan : span ≤ 24 := by omega
  have h4 : (100 * century + 4 * span + year) / 4 = 25 * century + span := by omega
  have h100 : (100 * century + 4 * span + year) / 100 = century := by omega
  refine ⟨100 * century + 4 * span + year, (n - 36524 * century) % 1461 - 365 * year,
    ?_, ?_, ?_, ?_⟩
  · omega
  · omega
  · rw [h4, h100]
    omega
  · omega

/-- The year is found by division once the leap days before it are taken away. -/
theorem FallsIn.year_eq {n year day : Nat} (h : FallsIn n year day) :
    (n - n / 1460 + n / 36524 - n / 146096) / 365 = year := by
  obtain ⟨hyear, hday, hcount, hleap⟩ := h
  have hlast : n < 36524 * (year / 100 + 1) ∨ n = 146096 ∧ year / 100 = 3 := by omega
  have hcenturies : n / 36524 = year / 100 + n / 146096 := by
    cases hlast with
    | inl hbefore =>
      have hera : n / 146096 = 0 := Nat.div_eq_of_lt (by omega)
      omega
    | inr hlast => omega
  -- days are counted in 1460 a little too early at the end of four years, within the same year
  have hspans : n / 1460 = year / 4 ∨
      n / 1460 = year / 4 + 1 ∧ 1364 ≤ 365 * (year % 4) + day := by omega
  have hdays : n - n / 1460 + n / 36524 - n / 146096 = n - n / 1460 + year / 100 := by omega
  rw [hdays]
  cases hspans with
  | inl hspans => omega
  | inr hspans => omega

/-! ### Months of a year -/

/-- Day `day` of a month, months and days counted from nought and years begun in March. -/
def ofMarch (year : Int) (month day : Nat) : Date :=
  if month < 10 then ⟨year, month + 3, day + 1⟩ else ⟨year + 1, month - 9, day + 1⟩

theorem dayNumber_ofMarch {year : Int} {month : Nat} (day : Nat) (h : month ≤ 11) :
    dayNumber (ofMarch year month day) =
      year / 400 * 146097 + (year % 400 * 365 + year % 400 / 4 - year % 400 / 100 +
        ((153 * month + 2) / 5 + day : Nat)) - 719468 := by
  by_cases hmarch : month < 10
  · have hfrom : (month + 3 + 9) % 12 = month := by omega
    simp only [ofMarch, dayNumber, if_pos hmarch, if_neg (by omega : ¬month + 3 ≤ 2), hfrom]
    omega
  · have hfrom : (month - 9 + 9) % 12 = month := by omega
    simp only [ofMarch, dayNumber, if_neg hmarch, if_pos (by omega : month - 9 ≤ 2), hfrom,
      Int.add_sub_cancel]
    omega

/-- A day is one of its month if the next month has not begun, and a last day of February that makes
366 is one in a leap year. -/
theorem isDate_ofMarch {year : Int} {month day : Nat} (hmonth : month ≤ 11)
    (hday : (153 * month + 2) / 5 + day < (153 * (month + 1) + 2) / 5)
    (hend : (153 * month + 2) / 5 + day < 365 ∨
      (153 * month + 2) / 5 + day = 365 ∧ isLeap (year + 1) = true) :
    isDate (ofMarch year month day) = true := by
  by_cases hlast : month = 11
  · subst hlast
    show (1 ≤ day + 1 && day + 1 ≤ (if isLeap (year + 1) then 29 else 28)) = true
    cases hend with
    | inl hbefore =>
      split <;> simp <;> omega
    | inr hleap =>
      rw [if_pos hleap.2]
      simp
      omega
  · have hbefore : month < 11 := by omega
    interval_cases month <;> simp [isDate, ofMarch, daysInMonth] <;> omega

theorem daysInMonth_le (year : Int) (month : Nat) : daysInMonth year month ≤ 31 := by
  have hfebruary : (if isLeap year then 29 else 28) ≤ 31 := by split <;> decide
  unfold daysInMonth
  split <;> omega

/-- A date has a month of at most 12 and a day of at most 31. -/
theorem bounds_of_isDate {d : Date} (h : isDate d = true) : d.month ≤ 12 ∧ d.day ≤ 31 := by
  obtain ⟨hfirst, hlast⟩ : 1 ≤ d.day ∧ d.day ≤ daysInMonth d.year d.month := by
    simpa [isDate] using h
  refine ⟨?_, Nat.le_trans hlast (daysInMonth_le d.year d.month)⟩
  by_cases hmonth : d.month ≤ 12
  · exact hmonth
  · have hnone : daysInMonth d.year d.month = 0 := by
      unfold daysInMonth
      split <;> omega
    omega

/-! ### The date of a day -/

theorem dateOf_eq_ofMarch {days : Int} {year day : Nat}
    (h : FallsIn ((days + 719468) % 146097).toNat year day) :
    dateOf days = ofMarch ((days + 719468) / 146097 * 400 + year) ((5 * day + 2) / 153)
      (day - (153 * ((5 * day + 2) / 153) + 2) / 5) := by
  have hday : ((days + 719468) % 146097).toNat - (365 * year + year / 4 - year / 100) = day := by
    have hcount := h.count
    omega
  have hmonth : (5 * day + 2) / 153 ≤ 11 := by
    have hlast := h.day_le
    omega
  simp only [dateOf, ofMarch, h.year_eq, hday]
  by_cases hmarch : (5 * day + 2) / 153 < 10
  · simp only [if_pos hmarch]
    rw [if_neg (by omega), Int.add_zero]
  · simp only [if_neg hmarch]
    rw [if_pos (by omega)]

/-- The date found for a day is counted as that day. -/
theorem dayNumber_dateOf (days : Int) : dayNumber (dateOf days) = days := by
  obtain ⟨year, day, h⟩ := exists_fallsIn
    (by omega : ((days + 719468) % 146097).toNat < 146097)
  have hcount := h.count
  have hyear := h.year_lt
  have hday := h.day_le
  have hera : ((days + 719468) / 146097 * 400 + year) / 400 = (days + 719468) / 146097 := by omega
  have hofEra : ((days + 719468) / 146097 * 400 + year) % 400 = year := by omega
  rw [dateOf_eq_ofMarch h, dayNumber_ofMarch _ (by omega), hera, hofEra]
  omega

/-- The date found for a day is a date. -/
theorem isDate_dateOf (days : Int) : isDate (dateOf days) = true := by
  obtain ⟨year, day, h⟩ := exists_fallsIn
    (by omega : ((days + 719468) % 146097).toNat < 146097)
  have hlast := h.day_le
  have hday : (153 * ((5 * day + 2) / 153) + 2) / 5 +
      (day - (153 * ((5 * day + 2) / 153) + 2) / 5) = day := by omega
  rw [dateOf_eq_ofMarch h]
  refine isDate_ofMarch (by omega) (by omega) ?_
  rw [hday]
  by_cases hleap : day = 365
  · right
    refine ⟨hleap, ?_⟩
    have hyear := h.leap hleap
    simp [isLeap]
    omega
  · left
    omega

end ProfileGuard.Calendar
