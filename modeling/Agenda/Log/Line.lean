import Agenda.Clock.Anchor
import Agenda.Log.Record

/-!
Lines of a log: the local time to the millisecond, the level, the source and the message.
-/

namespace Agenda.Log

open Calendar Clock

/-- Date and time of a reading of the local clock, in any year. -/
def stampText (reading : Int) : Text :=
  let civil := Civil.ofDayNumber (reading / 86400)
  let time := TimeOfDay.ofSeconds (reading % 86400).toNat
  Text.ofInt civil.year ++ '-' :: Text.padded 2 civil.month ++ '-' :: Text.padded 2 civil.day ++
    ' ' :: time.text

/-- Three digits or more for a number of milliseconds, with the sign in front. -/
def millisText (n : Int) : Text :=
  if n < 0 then '-' :: Text.padded 2 n.natAbs else Text.padded 3 n.natAbs

/-- The line of a record that was made at a count of seconds. There is none if the count is too
large for a local time. -/
def line? (z : Zone) (count : Number.Count) (r : Record) : Option Text :=
  match count with
  | .finite value =>
    let fraction := value - (Number.truncate value : Int)
    let millis := Number.truncate (Number.nearest (fraction * 1000))
    if Zone.fitsSeconds value.floor && z.isNear value.floor then
      some (stampText (z.wall value.floor) ++ '.' :: millisText millis ++ ' ' :: r.text)
    else none
  | _ => none

/-- The line of a record that is made now. It has no time if the clock shows none. -/
def lineNow (clock : WallClock) (r : Record) : Text :=
  (line? clock.zone clock.seconds r).getD r.text

def fileName : Text := "smartodo.log".toList

end Agenda.Log
