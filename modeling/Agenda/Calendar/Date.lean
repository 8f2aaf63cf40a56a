import Agenda.Fault

/-!
Dates of the Gregorian calendar, carried back before its start. Days are numbered from the first
of January 1970, which has number 0, and every day number belongs to one civil day; a `Date` is a
civil day of the years 1 to 9999.
-/

namespace Agenda.Calendar

/-- A year with a 29th of February. -/
def isLeap (year : Int) : Bool :=
  decide (year % 4 = 0) && (decide (year % 100 ≠ 0) || decide (year % 400 = 0))

def monthLengths (year : Int) : List Nat :=
  [31, if isLeap year then 29 else 28, 31, 30, 31, 30, 31, 31, 30, 31, 30, 31]

/-- The length of a month, 0 if there is no such month. -/
def daysInMonth (year : Int) (month : Nat) : Nat :=
  if month = 0 then 0 else (monthLengths year).getD (month - 1) 0

/-- The days between the first of January of year 1 and that of the year. -/
def daysBeforeYear (year : Int) : Int :=
  365 * (year - 1) + (year - 1) / 4 - (year - 1) / 100 + (year - 1) / 400

/-- The days between the first of January of year 1 and that of 1970. -/
def daysBeforeEpoch : Int := 719162

def daysBeforeMonth (year : Int) (month : Nat) : Nat :=
  ((monthLengths year).take (month - 1)).foldr (· + ·) 0

def dayNumberOf (year : Int) (month day : Nat) : Int :=
  daysBeforeYear year + daysBeforeMonth year month + day - 1 - daysBeforeEpoch

/-- The weekday of a day number, Monday being 0. -/
def weekdayOf (dayNumber : Int) : Nat := ((dayNumber + 3) % 7).toNat

/-- A day of any year, before year 1 also. -/
structure Civil where
  year : Int
  month : Nat
  day : Nat
  deriving DecidableEq, Repr

/-- The month and the day of month of the `n`-th day after the first, given the lengths of the
months. -/
def monthAndDay : List Nat → Nat → Nat × Nat
  | [], n => (1, n + 1)
  | length :: rest, n =>
    if n < length then (1, n + 1)
    else
      let (month, day) := monthAndDay rest (n - length)
      (month + 1, day)

/-- The civil day of a day number. Four centuries have 146097 days, a century of them 36524 or
one more, four years 1461 or one less, and a year 365 or one more. -/
def Civil.ofDayNumber (dayNumber : Int) : Civil :=
  let days := dayNumber + daysBeforeEpoch
  let cycle := days / 146097
  let inCycle := days % 146097
  let century := min (inCycle / 36524) 3
  let inCentury := inCycle - 36524 * century
  let fourYears := inCentury / 1461
  let inFourYears := inCentury % 1461
  let single := min (inFourYears / 365) 3
  let dayOfYear := inFourYears - 365 * single
  let year := 400 * cycle + 100 * century + 4 * fourYears + single + 1
  let (month, day) := monthAndDay (monthLengths year) dayOfYear.toNat
  ⟨year, month, day⟩

/-- A day of the years 1 to 9999. -/
structure Date where
  year : Nat
  month : Nat
  day : Nat
  inCalendar : 1 ≤ year ∧ year ≤ 9999 ∧ 1 ≤ month ∧ month ≤ 12 ∧ 1 ≤ day ∧
    day ≤ daysInMonth year month
  deriving DecidableEq, Repr

def maxYear : Int := 9999

def checkYear (year : Int) : Except Fault Unit :=
  if 1 ≤ year ∧ year ≤ maxYear then .ok () else .error (.yearOutside year)

namespace Date

def ofNumbers? (year month day : Nat) : Option Date :=
  if h : 1 ≤ year ∧ year ≤ 9999 ∧ 1 ≤ month ∧ month ≤ 12 ∧ 1 ≤ day ∧
      day ≤ daysInMonth year month then
    some ⟨year, month, day, h⟩
  else none

/-- The date of three integers. Of several fields outside their ranges the first is blamed. -/
def ofFields (year month day : Int) : Except Fault Date := do
  checkYear year
  if month < 1 ∨ 12 < month then throw .monthOutside
  match ofNumbers? year.toNat month.toNat day.toNat with
  | some date => if day < 1 then throw .dayOutside else return date
  | none => throw .dayOutside

def dayNumber (date : Date) : Int := dayNumberOf date.year date.month date.day

/-- The date of a day number, if its year is one of the calendar's. -/
def ofDayNumber? (n : Int) : Option Date :=
  let civil := Civil.ofDayNumber n
  if 1 ≤ civil.year then ofNumbers? civil.year.toNat civil.month civil.day else none

def weekday (date : Date) : Nat := weekdayOf date.dayNumber

/-- Two's complement words of the width that a field is held in. -/
def fitsField (n : Int) : Bool := decide (-2147483648 ≤ n) && decide (n ≤ 2147483647)

/-- A number of days that a distance between dates may have. -/
def checkDays (days : Int) : Except Fault Unit :=
  if !fitsField days then .error .daysTooWide
  else if days < -999999999 ∨ 999999999 < days then .error (.daysOutside days)
  else .ok ()

/-- The date a number of days later, or earlier if it is negative. -/
def addDays (date : Date) (days : Int) : Except Fault Date := do
  checkDays days
  match ofDayNumber? (date.dayNumber + days) with
  | some later => return later
  | none => throw .dateOutside

/-- The days from a date to the next day of the given weekday: 1 to 7, never 0. -/
def daysUntil (date : Date) (weekday : Int) : Int := (weekday - date.weekday - 1) % 7 + 1

/-- The date as four digits of year, two of month and two of day. -/
def text (date : Date) : Text :=
  Text.padded 4 date.year ++ '-' :: Text.padded 2 date.month ++ '-' :: Text.padded 2 date.day

end Date

end Agenda.Calendar
