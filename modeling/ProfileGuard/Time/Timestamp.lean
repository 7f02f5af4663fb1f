import ProfileGuard.Text.Blank
import ProfileGuard.Text.Decimal
import ProfileGuard.Time.Calendar
import ProfileGuard.Time.Duration

/-!
# Timestamps

A moment of the civil calendar in UTC with nanoseconds.  It is written in the form of RFC 3339 with
`Z` and the fewest of 0, 3, 6 or 9 fraction digits that lose nothing.  It is read more freely: any
offset, numbers with fewer digits, and blanks around the separators.

* **`Timestamp`** — a moment; a leap second is the second before it with a billion more nanoseconds.
* **`Timestamp.render`** — the RFC 3339 form.
* **`Timestamp.read?`** — the moment written by a text.
-/

namespace ProfileGuard

/-- Nanoseconds in a second. -/
def nanosPerSecond : Nat := 1000000000

/-- The first day that a timestamp can name, in the year -262143. -/
def firstDay : Int := Calendar.dayNumber ⟨-262143, 1, 1⟩

/-- The last day that a timestamp can name, in the year 262142. -/
def lastDay : Int := Calendar.dayNumber ⟨262142, 12, 31⟩

/-- Whether seconds since 1970 and nanoseconds are a moment of the calendar. -/
def isMoment (seconds : Int) (nanos : Nat) : Bool :=
  firstDay ≤ seconds / 86400 && seconds / 86400 ≤ lastDay &&
    (nanos < nanosPerSecond || (nanos < 2 * nanosPerSecond && seconds % 60 == 59))

/-- A moment of the civil calendar. -/
structure Timestamp where
  /-- Whole seconds since 1970-01-01 in UTC. -/
  seconds : Int
  /-- Nanoseconds within the second; from a billion on, within the leap second after it. -/
  nanos : Nat
  valid : isMoment seconds nanos = true

namespace Timestamp

instance : DecidableEq Timestamp := fun a b =>
  if h : a.seconds = b.seconds ∧ a.nanos = b.nanos then
    isTrue (by cases a; cases b; simp_all)
  else isFalse (fun e => h (by subst e; exact ⟨rfl, rfl⟩))

/-- The moment with these seconds and nanoseconds, if there is one. -/
def of? (seconds : Int) (nanos : Nat) : Option Timestamp :=
  if h : isMoment seconds nanos = true then some ⟨seconds, nanos, h⟩ else none

/-- The moment at which the clock starts, 2026-01-01T00:00:00Z. -/
def clockStart : Timestamp := ⟨1767225600, 0, by decide⟩

/-- The moment that a running clock shows; the calendar's last moments are never reached. -/
def atInstant (now : Instant) : Timestamp :=
  (of? (1767225600 + (now / nanosPerSecond : Nat)) (now % nanosPerSecond)).getD clockStart

/-- Nanoseconds since 1970-01-01. -/
def unixNanos (t : Timestamp) : Int := t.seconds * nanosPerSecond + t.nanos

/-- Nanoseconds since 1970-01-01, unless they are too many for a signed number of 64 bits. -/
def unixNanos? (t : Timestamp) : Option Int :=
  if -9223372036854775808 ≤ t.unixNanos ∧ t.unixNanos ≤ 9223372036854775807 then some t.unixNanos
  else none

/-! ### Writing -/

/-- A year: four digits, or outside 0 to 9999 a sign and at least four digits. -/
def yearChars (year : Int) : List Char :=
  if 0 ≤ year ∧ year ≤ 9999 then Text.Decimal.padded 4 year.toNat
  else (if year < 0 then '-' else '+') :: Text.Decimal.padded 4 year.natAbs

/-- The fraction of a second with the fewest of 0, 3, 6 or 9 digits. -/
def fractionChars (nanos : Nat) : List Char :=
  if nanos = 0 then []
  else if nanos % 1000000 = 0 then '.' :: Text.Decimal.padded 3 (nanos / 1000000)
  else if nanos % 1000 = 0 then '.' :: Text.Decimal.padded 6 (nanos / 1000)
  else '.' :: Text.Decimal.padded 9 nanos

/-- The RFC 3339 form in UTC. -/
def render (t : Timestamp) : List Char :=
  let date := Calendar.dateOf (t.seconds / 86400)
  let second := (t.seconds % 86400).toNat
  let leap := nanosPerSecond ≤ t.nanos
  yearChars date.year ++ '-' :: Text.Decimal.padded 2 date.month ++
    '-' :: Text.Decimal.padded 2 date.day ++ 'T' :: Text.Decimal.padded 2 (second / 3600) ++
    ':' :: Text.Decimal.padded 2 (second / 60 % 60) ++
    ':' :: Text.Decimal.padded 2 (second % 60 + if leap then 1 else 0) ++
    fractionChars (t.nanos % nanosPerSecond) ++ ['Z']

/-! ### Reading -/

/-- The number written by the first digits, at least one and at most `most`, and what follows. -/
def number? (most : Nat) (cs : List Char) : Option (Nat × List Char) :=
  let digits := (cs.take most).takeWhile Char.isDigit
  if digits = [] then none
  else some (Text.Decimal.value digits, cs.drop digits.length)

/-- A number of any length. -/
def longNumber? (cs : List Char) : Option (Nat × List Char) := number? cs.length cs

/-- A year: up to four digits, or a sign and any number of digits. -/
def year? (cs : List Char) : Option (Int × List Char) :=
  match Text.dropBlanks cs with
  | '-' :: rest => (longNumber? rest).map fun (n, rest) => (-(n : Int), rest)
  | '+' :: rest => (longNumber? rest).map fun (n, rest) => ((n : Int), rest)
  | rest => (number? 4 rest).map fun (n, rest) => ((n : Int), rest)

/-- A number of at most two digits, blanks before it allowed. -/
def twoDigits? (cs : List Char) : Option (Nat × List Char) := number? 2 (Text.dropBlanks cs)

/-- A separator, blanks before it allowed. -/
def separator? (sep : Char) (cs : List Char) : Option (List Char) :=
  match Text.dropBlanks cs with
  | c :: rest => if c = sep then some rest else none
  | [] => none

/-- A date. -/
def date? (cs : List Char) : Option (Calendar.Date × List Char) := do
  let (year, cs) ← year? cs
  let cs ← separator? '-' cs
  let (month, cs) ← twoDigits? cs
  let cs ← separator? '-' cs
  let (day, cs) ← twoDigits? cs
  return (⟨year, month, day⟩, cs)

/-- The nanoseconds of a fraction after its point: at least one digit, those after nine are cut. -/
def nanos? (cs : List Char) : Option (Nat × List Char) := do
  let (n, rest) ← number? 9 cs
  return (n * Nat.pow 10 (9 - (cs.length - rest.length)), rest.dropWhile Char.isDigit)

/-- A time of day: hour, minute, second up to 60, and nanoseconds. -/
def time? (cs : List Char) : Option ((Nat × Nat × Nat × Nat) × List Char) := do
  let (hour, cs) ← twoDigits? cs
  let cs ← separator? ':' cs
  let (minute, cs) ← twoDigits? cs
  let cs ← separator? ':' cs
  let (second, cs) ← twoDigits? cs
  if 23 < hour ∨ 59 < minute ∨ 60 < second then none
  match cs with
  | '.' :: cs =>
    let (nanos, cs) ← nanos? cs
    return ((hour, minute, second, nanos), cs)
  | cs => return ((hour, minute, second, 0), cs)

/-- Two digits exactly. -/
def pair? : List Char → Option (Nat × List Char)
  | a :: b :: rest => if a.isDigit ∧ b.isDigit then some (Text.Decimal.value [a, b], rest) else none
  | _ => none

/-- The seconds of an offset after its sign: hours, then minutes after colons or blanks. -/
def offsetDigits? (cs : List Char) : Option (Nat × List Char) := do
  let (hours, cs) ← pair? cs
  let (minutes, cs) ← pair? (cs.dropWhile fun c => c == ':' || Text.isBlank c)
  if 59 < minutes ∨ 86400 ≤ hours * 3600 + minutes * 60 then none
  return (hours * 3600 + minutes * 60, cs)

/-- The distance from UTC in seconds. -/
def offset? : List Char → Option (Int × List Char)
  | 'Z' :: rest => some (0, rest)
  | 'z' :: rest => some (0, rest)
  | '+' :: rest => (offsetDigits? rest).map fun (n, rest) => ((n : Int), rest)
  | '-' :: rest => (offsetDigits? rest).map fun (n, rest) => (-(n : Int), rest)
  | '−' :: rest => (offsetDigits? rest).map fun (n, rest) => (-(n : Int), rest)
  | u :: t :: c :: rest =>
    if [u, t, c].map Char.toLower = ['u', 't', 'c'] then some (0, rest) else none
  | _ => none

/-- The moment of a date, a time of day and an offset. -/
def ofParts? (date : Calendar.Date) (time : Nat × Nat × Nat × Nat) (offset : Int) :
    Option Timestamp :=
  let (hour, minute, second, nanos) := time
  let day := Calendar.dayNumber date
  if Calendar.isDate date = false ∨ day < firstDay ∨ lastDay < day then none
  else
    let leap := second = 60
    let ofDay : Int := hour * 3600 + minute * 60 + (if leap then 59 else second : Nat)
    of? (day * 86400 + ofDay - offset) (if leap then nanos + nanosPerSecond else nanos)

/-- The moment written by a text. -/
def readChars? (cs : List Char) : Option Timestamp := do
  let (date, cs) ← date? cs
  match cs with
  | [] => none
  | sep :: cs =>
    if sep ≠ 'T' ∧ sep ≠ 't' ∧ sep ≠ ' ' then none
    let (time, cs) ← time? cs
    let (offset, cs) ← offset? (Text.dropBlanks cs)
    if cs.all Text.isBlank then ofParts? date time offset else none

/-- The moment written by a text. -/
def read? (text : String) : Option Timestamp := readChars? text.toList

end Timestamp

end ProfileGuard
