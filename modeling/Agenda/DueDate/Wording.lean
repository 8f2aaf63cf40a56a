import Agenda.Calendar.Names
import Agenda.Clock.Anchor

/-!
Due dates in words, relative to now.
-/

namespace Agenda.DueDate

open Calendar Clock

def clockText (time : TimeOfDay) : Text :=
  let hour := if time.hour % 12 = 0 then 12 else time.hour % 12
  let half := if 12 ≤ time.hour then " PM".toList else " AM".toList
  Text.ofNat hour ++ ':' :: Text.padded 2 time.minute ++ half

/-- The day of a date seen from today: today, tomorrow, a weekday of the next six days, or month
and day. -/
def dayText (today date : Date) : Text :=
  let ahead := date.dayNumber - today.dayNumber
  if ahead = 0 then "Today".toList
  else if ahead = 1 then "Tomorrow".toList
  else if 1 < ahead ∧ ahead < 7 then capitalized (weekdayNames.getD date.weekday [])
  else
    capitalized ((monthNames.getD (date.month - 1) []).take 3) ++ ' ' :: Text.padded 2 date.day

/-- A due instant in words: the day and the time of day, or that there is none. -/
def wording (clock : WallClock) (anchor : Anchor) : Option Instant → Except Fault Text
  | none => return "No due date".toList
  | some due => do
    let time ← clock.zone.toLocal due
    let now ← clock.resolve anchor
    return dayText now.date time.date ++ " at ".toList ++ clockText time.time

/-- The instant of a due second, of which 0 stands for none. -/
def instant? (due : Int) : Option Instant := if due = 0 then none else some (.ofSeconds due)

end Agenda.DueDate
