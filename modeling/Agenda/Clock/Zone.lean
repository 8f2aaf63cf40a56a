import Agenda.Calendar.TimeOfDay

/-!
Time zones. A zone says how far its clocks are ahead of universal time at every instant; two of
them put their clocks forward by an hour each summer, in every year by the same rule. A second
of the local clock is counted as if the clock showed universal time, so that equal readings have
equal counts.
-/

namespace Agenda.Clock

open Calendar

/-- A yearly change of the clocks: the `week`-th Sunday of a month, when the clock that is about
to be changed shows the second of day. -/
structure Change where
  month : Nat
  week : Nat
  second : Int
  deriving DecidableEq, Repr

/-- The reading of the local clock at a change in the given year. -/
def Change.wall (change : Change) (year : Int) : Int :=
  let first := dayNumberOf year change.month 1
  let sunday := first + (6 - (weekdayOf first : Int)) % 7
  86400 * (sunday + 7 * ((change.week : Int) - 1)) + change.second

/-- The time zones of the library. -/
inductive Zone where
  | utc
  /-- Always 5 hours 30 minutes ahead. -/
  | ahead0530
  /-- Always 3 hours 30 minutes behind. -/
  | behind0330
  /-- 5 hours behind, with summer from March to November. -/
  | eastAmerica
  /-- 10 hours ahead, with summer from October to April. -/
  | eastAustralia
  deriving DecidableEq, Repr

namespace Zone

/-- The zone of a name in the notation that gives offset and rule. -/
def ofName? (name : Text) : Option Zone :=
  if name = "UTC".toList then some utc
  else if name = "<+0530>-5:30".toList then some ahead0530
  else if name = "<-0330>3:30".toList then some behind0330
  else if name = "EST5EDT,M3.2.0,M11.1.0".toList then some eastAmerica
  else if name = "AEST-10AEDT,M10.1.0,M4.1.0/3".toList then some eastAustralia
  else none

/-- The seconds that the clocks are ahead of universal time outside summer. -/
def standard : Zone → Int
  | utc => 0
  | ahead0530 => 19800
  | behind0330 => -12600
  | eastAmerica => -18000
  | eastAustralia => 36000

/-- Where there is a summer: its start and its end. -/
def summer? : Zone → Option (Change × Change)
  | utc => none
  | ahead0530 => none
  | behind0330 => none
  | eastAmerica => some (⟨3, 2, 7200⟩, ⟨11, 1, 7200⟩)
  | eastAustralia => some (⟨10, 1, 7200⟩, ⟨4, 1, 10800⟩)

def yearOf (second : Int) : Int := (Civil.ofDayNumber (second / 86400)).year

/-- Summer rules at a second of universal time. South of the equator it spans the new year. -/
def isSummer (z : Zone) (u : Int) : Bool :=
  match z.summer? with
  | none => false
  | some (start, stop) =>
    let year := yearOf (u + z.standard)
    let begins := start.wall year - z.standard
    let ends := stop.wall year - (z.standard + 3600)
    if begins < ends then decide (begins ≤ u) && decide (u < ends)
    else decide (u < ends) || decide (begins ≤ u)

/-- The seconds that the clocks are ahead of universal time at a second of it. -/
def offset (z : Zone) (u : Int) : Int := if z.isSummer u then z.standard + 3600 else z.standard

/-- The reading of the local clock at a second of universal time. -/
def wall (z : Zone) (u : Int) : Int := u + z.offset u

/-- A year that a calendar of 32-bit years counted from 1900 holds. -/
def isNearYear (year : Int) : Bool := Date.fitsField (year - 1900)

/-- Both the universal and the local year are near enough at a second of universal time. -/
def isNear (z : Zone) (u : Int) : Bool := isNearYear (yearOf u) && isNearYear (yearOf (z.wall u))

/-- The reading of the local clock, if it shows a date. A year outside the calendar is reported as
a word of 32 bits. -/
def wallInCalendar (z : Zone) (u : Int) : Except Fault Int :=
  let wall := z.wall u
  let year := yearOf wall
  if !z.isNear u then .error .secondsTooFar
  else if 1 ≤ year ∧ year ≤ maxYear then .ok wall
  else .error (.yearOutside (year.bmod 4294967296))

/-- The second of universal time at which the local clock shows a reading. A clock that is put
back shows some readings twice: the earlier second is meant unless `again`. A clock that is put
forward leaves some out: these are read as if it had been left alone, or, if `again`, as if it
had been put forward before. -/
def secondOf (z : Zone) (reading : Int) (again : Bool) : Except Fault Int := do
  let ahead := (← z.wallInCalendar reading) - reading
  let first := reading - ahead
  let shown ← z.wallInCalendar first
  let probe := if again then first + 86400 else first - 86400
  let other ← if shown = reading then do pure ((← z.wallInCalendar probe) - probe)
    else pure (shown - first)
  if shown = reading ∧ ahead = other then return first
  let second := reading - other
  if (← z.wallInCalendar second) = reading then return second
  if shown = reading then return first
  return if again then min first second else max first second

end Zone

end Agenda.Clock
