import Agenda.DueDate.Format
import Agenda.Phrase.Resolve

/-!
Due dates as they are typed: an explicit date if the whole text is one, else a phrase.
-/

namespace Agenda.DueDate

open Calendar Clock

/-- The second of an explicit date: its universal time, or the start of the local day. -/
def Stamp.second (stamp : Stamp) (z : Zone) : Except Fault Int :=
  if stamp.universal then .ok (86400 * stamp.date.dayNumber + stamp.time.seconds)
  else z.dayStart stamp.date

/-- The second that a due date names, or none if it names none. -/
def resolve (clock : WallClock) (anchor : Anchor) (text : Option Text) :
    Except Fault (Option Int) :=
  match Phrase.usable? text with
  | none => return none
  | some text =>
    match stamp? (Text.trim text) with
    | some stamp => some <$> stamp.second clock.zone
    | none => Phrase.resolve clock anchor (some (Text.trim text))

end Agenda.DueDate
