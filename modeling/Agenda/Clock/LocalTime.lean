import Agenda.Clock.Instant
import Agenda.Clock.Zone

/-!
Local times: what the calendar and the clock on the wall show, without a zone. A zone turns
instants into local times and back.
-/

namespace Agenda.Clock

open Calendar

/-- A date and a time of day to the microsecond. `again` marks the second pass of a reading that
the clock shows twice. -/
structure LocalTime where
  date : Date
  time : TimeOfDay
  micro : Nat
  again : Bool
  micro_lt : micro < 1000000
  deriving DecidableEq, Repr

namespace LocalTime

def on (date : Date) (time : TimeOfDay) : LocalTime := ⟨date, time, 0, false, by decide⟩

def atFields (date : Date) (hour minute second : Int) : Except Fault LocalTime := do
  checkField hour
  checkField minute
  checkField second
  return on date (← TimeOfDay.ofFields hour minute second)

/-- A date and a time of day with a count of microseconds, of which whole seconds are left out. -/
def withMicros (date : Date) (time : TimeOfDay) (micros : Nat) (again : Bool) : LocalTime :=
  ⟨date, time, micros % 1000000, again, Nat.mod_lt _ (by decide)⟩

/-- The reading in seconds, counted as if the clock showed universal time. -/
def reading (t : LocalTime) : Int := 86400 * t.date.dayNumber + t.time.seconds

def ofReading (reading : Int) (micro : Nat) (again : Bool) : Except Fault LocalTime :=
  match Date.ofDayNumber? (reading / 86400) with
  | some date =>
    .ok (.withMicros date (.ofSeconds (reading % 86400).toNat) micro again)
  | none => .error .dateOutside

def startOfMinute (t : LocalTime) : LocalTime :=
  { t with time := ⟨t.time.hour, t.time.minute, 0, by have := t.time.inDay; omega⟩, micro := 0,
           micro_lt := by decide }

/-- The local time whole days later, on its first pass. -/
def addDays (t : LocalTime) (days : Int) : Except Fault LocalTime := do
  let date ← t.date.addDays days
  return { t with date := date, again := false }

end LocalTime

namespace Zone

/-- Counts of seconds that fit a machine word. -/
def fitsSeconds (n : Int) : Bool :=
  decide (-9223372036854775808 ≤ n) && decide (n ≤ 9223372036854775807)

/-- The local time at an instant. It is the second pass if a clock put back within the last day
had already shown it. -/
def toLocal (z : Zone) (i : Instant) : Except Fault LocalTime := do
  let u := i.seconds
  if !fitsSeconds u then throw .secondsTooWide
  let wall ← z.wallInCalendar u
  let dayBefore ← z.wallInCalendar (u - 86400)
  let change := wall - dayBefore - 86400
  let again ← if change < 0 then do pure (decide ((← z.wallInCalendar (u + change)) = wall))
    else pure false
  LocalTime.ofReading wall i.fraction again

/-- The second of universal time at which a local time lies, without the fraction. -/
def toSecond (z : Zone) (t : LocalTime) : Except Fault Int := z.secondOf t.reading t.again

/-- The count of seconds of a local time, fraction included, to 53 binary digits. -/
def toCount (z : Zone) (t : LocalTime) : Except Fault Rat := do
  let second ← z.toSecond t
  if t.micro = 0 then return second
  return Number.nearest (second + Number.nearest (mkRat t.micro 1000000))

/-- The count of seconds of a local time without its fraction. -/
def toTimestamp (z : Zone) (t : LocalTime) : Except Fault Int := do
  return Number.truncate (← z.toCount t)

def dayStart (z : Zone) (date : Date) : Except Fault Int := z.toTimestamp (.on date .midnight)

def dayEnd (z : Zone) (date : Date) : Except Fault Int := z.toTimestamp (.on date .lastSecond)

end Zone

end Agenda.Clock
