/-!
# Calendar days

The Gregorian calendar without end in both directions.  A year is taken to begin in March, so that
the leap day comes last, and 400 years form an era of 146097 days.

* **`Calendar.dayNumber`** — days from 1970-01-01 to a date.
* **`Calendar.dateOf`** — the date of such a day.
* **`Calendar.isDate`** — whether a year has a month and a day.
-/

namespace ProfileGuard.Calendar

/-- A date of the Gregorian calendar. -/
structure Date where
  year : Int
  month : Nat
  day : Nat
  deriving DecidableEq

/-- Whether a year has 366 days. -/
def isLeap (year : Int) : Bool := year % 4 == 0 && (year % 100 != 0 || year % 400 == 0)

/-- The number of days of a month; none for a number that is no month. -/
def daysInMonth (year : Int) (month : Nat) : Nat :=
  match month with
  | 1 | 3 | 5 | 7 | 8 | 10 | 12 => 31
  | 4 | 6 | 9 | 11 => 30
  | 2 => if isLeap year then 29 else 28
  | _ => 0

/-- Whether the numbers name a day of the calendar. -/
def isDate (d : Date) : Bool := 1 ≤ d.day && d.day ≤ daysInMonth d.year d.month

/-- Days from 1970-01-01 to a date. -/
def dayNumber (d : Date) : Int :=
  let year := if d.month ≤ 2 then d.year - 1 else d.year
  let era := year / 400
  let ofEra := year % 400
  let monthFromMarch := (d.month + 9) % 12
  let ofYear : Int := (153 * monthFromMarch + 2) / 5 + d.day - 1
  era * 146097 + (ofEra * 365 + ofEra / 4 - ofEra / 100 + ofYear) - 719468

/-- The date of a day counted from 1970-01-01. -/
def dateOf (days : Int) : Date :=
  let shifted := days + 719468
  let era := shifted / 146097
  let ofEra := (shifted % 146097).toNat
  let year := (ofEra - ofEra / 1460 + ofEra / 36524 - ofEra / 146096) / 365
  let ofYear := ofEra - (365 * year + year / 4 - year / 100)
  let monthFromMarch := (5 * ofYear + 2) / 153
  let month := if monthFromMarch < 10 then monthFromMarch + 3 else monthFromMarch - 9
  { year := era * 400 + year + (if month ≤ 2 then 1 else 0)
    month
    day := ofYear - (153 * monthFromMarch + 2) / 5 + 1 }

end ProfileGuard.Calendar
