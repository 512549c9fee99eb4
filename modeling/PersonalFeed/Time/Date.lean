/-!
Dates of the Gregorian calendar, years 1 to 9999, and their numbers: day 0 is the first of January
of year 1. A week starts on Monday and belongs to the year that holds its Thursday, so a year has 52
weeks, or 53.
-/

set_option autoImplicit false

namespace PersonalFeed.Time

structure Date where
  year : Nat
  month : Nat
  day : Nat
  deriving DecidableEq, Repr

namespace Date

def isLeap (year : Nat) : Bool := year % 4 == 0 && (year % 100 != 0 || year % 400 == 0)

def daysBeforeYear (year : Nat) : Nat :=
  let past := year - 1
  past * 365 + past / 4 - past / 100 + past / 400

def daysInMonth (year month : Nat) : Nat :=
  if month = 2 then if isLeap year then 29 else 28
  else if month = 4 ∨ month = 6 ∨ month = 9 ∨ month = 11 then 30
  else 31

def daysBeforeMonth (year : Nat) : Nat → Nat
  | 0 => 0
  | 1 => 0
  | month + 2 => daysBeforeMonth year (month + 1) + daysInMonth year (month + 1)

def isValid (date : Date) : Bool :=
  1 ≤ date.year && date.year ≤ 9999 && 1 ≤ date.month && date.month ≤ 12 &&
    1 ≤ date.day && date.day ≤ daysInMonth date.year date.month

def number (date : Date) : Nat :=
  daysBeforeYear date.year + daysBeforeMonth date.year date.month + date.day - 1

/-- The month of a day of the year, and its place in the month, counted from 0; `fuel` bounds the
months left. -/
def monthOfDay (year : Nat) : Nat → Nat → Nat → Nat × Nat
  | 0, month, day => (month, day)
  | fuel + 1, month, day =>
    if day < daysInMonth year month then (month, day)
    else monthOfDay year fuel (month + 1) (day - daysInMonth year month)

/-- The date with a number: count off whole cycles of 400, 100, 4 and 1 years. The last day of a
cycle belongs to its last year. -/
def ofNumber (n : Nat) : Date :=
  let (cycles, n) := (n / 146097, n % 146097)
  let (centuries, n) := (min 3 (n / 36524), n - min 3 (n / 36524) * 36524)
  let (fours, n) := (n / 1461, n % 1461)
  let (years, n) := (min 3 (n / 365), n - min 3 (n / 365) * 365)
  let year := cycles * 400 + centuries * 100 + fours * 4 + years + 1
  let (month, day) := monthOfDay year 11 1 n
  ⟨year, month, day + 1⟩

end Date

def calendarDays : Nat := Date.daysBeforeYear 10000

/-! ### Weeks -/

def firstWeekday (year : Nat) : Nat := Date.number ⟨year, 1, 1⟩ % 7

/-- Whether a year has 53 weeks: it starts on a Thursday, or on the day before with a leap day. -/
def isLong (year : Nat) : Bool :=
  firstWeekday year == 3 || (firstWeekday year == 2 && Date.isLeap year)

def firstMonday (year : Nat) : Nat :=
  let first := Date.number ⟨year, 1, 1⟩
  let weekday := firstWeekday year
  if weekday ≤ 3 then first - weekday else first + 7 - weekday

def dateOfWeek? (year week day : Nat) : Option Date :=
  let isWeek := 1 ≤ week ∧ (week ≤ 52 ∨ (week = 53 ∧ isLong year))
  let number := firstMonday year + (week - 1) * 7 + (day - 1)
  if 1 ≤ year ∧ isWeek ∧ 1 ≤ day ∧ day ≤ 7 ∧ number < calendarDays then some (.ofNumber number)
  else none

end PersonalFeed.Time
