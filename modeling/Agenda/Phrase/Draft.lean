import Agenda.Clock.LocalTime

/-!
Drafts: date and time fields that are set one by one and become a local time at the end. A day
past the end of its month then runs on into the next month.
-/

namespace Agenda.Phrase

open Calendar Clock

/-- Six fields of a local time, of any value. -/
structure Draft where
  year : Int
  month : Int
  day : Int
  hour : Int
  minute : Int
  second : Int
  deriving DecidableEq, Repr

namespace Draft

def ofLocal (t : LocalTime) : Draft :=
  ⟨t.date.year, t.date.month, t.date.day, t.time.hour, t.time.minute, t.time.second⟩

def onDate (d : Draft) (date : Date) : Draft :=
  { d with year := date.year, month := date.month, day := date.day }

def atTime (d : Draft) (hour minute second : Int) : Draft :=
  { d with hour := hour, minute := minute, second := second }

/-- The hour of a day that is named without a time. -/
def inMorning (d : Draft) : Draft := d.atTime 9 0 0

/-- The local time of the fields: the first of the month at the time of day, and from there the
days up to the day. -/
def toLocal (d : Draft) : Except Fault LocalTime := do
  checkField d.year
  checkField d.month
  checkField d.hour
  checkField d.minute
  checkField d.second
  let first ← Date.ofFields d.year d.month 1
  let time ← TimeOfDay.ofFields d.hour d.minute d.second
  let date ← first.addDays (d.day - 1)
  return .on date time

def toTimestamp (d : Draft) (z : Zone) : Except Fault Int := do z.toTimestamp (← d.toLocal)

end Draft

end Agenda.Phrase
