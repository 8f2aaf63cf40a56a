import Agenda.Calendar.Date
import Agenda.Calendar.Names
import Agenda.Phrase.Scanner

/-!
The grammars of date phrases: a time of day, a day of a month, and a day or time counted from
now. Each reads its phrase from the start of a tape, after blanks, and leaves what follows.
-/

namespace Agenda.Phrase

open Calendar Scanner

inductive Span where
  | days
  | hours
  | minutes
  deriving DecidableEq, Repr

def Span.ofWord? (word : Text) : Option Span :=
  if (["d", "day", "days"].map String.toList).contains word then some days
  else if (["h", "hr", "hrs", "hour", "hours"].map String.toList).contains word then some hours
  else if (["m", "min", "mins", "minute", "minutes"].map String.toList).contains word then
    some minutes
  else none

/-- A day or a time counted from now. -/
inductive Offset where
  /-- The morning of the day that many days ahead. -/
  | morning (daysAhead : Int)
  /-- The time that many units ahead. -/
  | later (amount : Nat) (unit : Span)
  deriving DecidableEq, Repr

variable {σ : Type} [Tape σ]

/-- A weekday, Monday being 0. -/
def weekday : Scanner σ Nat := nameIn weekdayNames

/-- A month from 1 to 12. -/
def month : Scanner σ Nat := (· + 1) <$> nameIn monthNames

/-- The half of the day that a suffix names: the second half or the first. -/
def halfOfDay : Scanner σ Bool :=
  ((fun _ => false) <$> keyword "am".toList).orElse <|
  ((fun _ => true) <$> keyword "pm".toList).orElse <|
  ((fun _ => false) <$> keyword "a".toList).orElse <|
  (fun _ => true) <$> keyword "p".toList

/-- The hour on the 24-hour clock. With a suffix 12 is the first hour of its half; without one an
hour below 12 lies in the afternoon. -/
def hourOfDay (hour : Nat) : Option Bool → Nat
  | some true => if hour = 12 then 12 else hour + 12
  | some false => if hour = 12 then 0 else hour
  | none => if hour < 12 then hour + 12 else hour

/-- An hour, a colon and a minute if any, and a suffix if any, as hour and minute. -/
def timeOfDay : Scanner σ (Nat × Nat) := do
  blanks
  let hour ← numeral
  blanks
  let minute ← match ← optional (literal [':']) with
    | some _ => numeral
    | none => pure 0
  blanks
  let hour := hourOfDay hour (← optional halfOfDay)
  guard (decide (hour ≤ 23) && decide (minute ≤ 59))
  return (hour, minute)

/-- A month, a point and a comma if any, and a day, as month and day. -/
def monthDay : Scanner σ (Nat × Nat) := do
  blanks
  let month ← month
  let _ ← optional (literal ['.'])
  blanks
  let _ ← optional (literal [','])
  blanks
  let day ← numeral
  guard (decide (1 ≤ day) && decide (day ≤ 31))
  return (month, day)

/-- The rest of a time counted from now: an amount and a unit. -/
def amountAhead : Scanner σ Offset := do
  blanks
  let amount ← numeral
  blanks
  match Span.ofWord? (← word) with
  | some unit => return .later amount unit
  | none => fail

/-- The rest of a phrase for the next day of a weekday. -/
def nextWeekday (today : Date) : Scanner σ Offset := do
  blanks
  return .morning (today.daysUntil (← weekday))

/-- A day or a time counted from now: "tomorrow", "in" an amount of a unit, or "next" weekday. -/
def relative (today : Date) : Scanner σ Offset := do
  blanks
  ((fun _ => Offset.morning 1) <$> keyword "tomorrow".toList).orElse <|
    (do keyword "in".toList; amountAhead).orElse <|
    (do keyword "next".toList; nextWeekday today)

end Agenda.Phrase
