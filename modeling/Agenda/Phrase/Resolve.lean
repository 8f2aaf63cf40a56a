import Agenda.Clock.Anchor
import Agenda.Phrase.Draft
import Agenda.Phrase.Grammar

/-!
What a phrase means. Three rules are tried in order: a day or time counted from now, a day of
a month or of the week, and a time of day. The first that recognizes the start of the text
counts, and what follows that start is left out.
-/

namespace Agenda.Phrase

open Calendar Clock

/-- A way to read a phrase: none if the phrase is not of this kind. -/
abbrev Rule := Zone → LocalTime → Text → Except Fault (Option Int)

/-- The second that lies an amount of units after the start of this minute. Days are counted on
the calendar. -/
def laterBy (z : Zone) (now : LocalTime) (amount : Nat) (unit : Span) : Except Fault Int := do
  let base ← now.startOfMinute.addDays (match unit with | .days => amount | _ => 0)
  let start ← z.toTimestamp base
  let second := start + match unit with
    | .days => 0
    | .hours => 3600 * (amount : Int)
    | .minutes => 60 * (amount : Int)
  let _ ← z.toLocal (.ofSeconds second)
  return second

/-- The morning a number of days from today. -/
def morningAfter (z : Zone) (now : LocalTime) (days : Int) : Except Fault Int := do
  let date ← now.date.addDays days
  ((Draft.ofLocal now).onDate date).inMorning.toTimestamp z

/-- A day or a time counted from now. A time that no calendar shows is not recognized. -/
def readRelative : Rule := fun z now text =>
  match relative now.date text with
  | .accept (.morning days) _ => some <$> morningAfter z now days
  | .accept (.later amount unit) _ => return (laterBy z now amount unit).toOption
  | .reject => return none
  | .fault cause _ => throw cause

/-- The morning of a day of a month: this year's, or next year's if this year's is past. -/
def nextMonthDay (z : Zone) (now : LocalTime) (month day : Nat) : Except Fault Int := do
  let draft := ({ Draft.ofLocal now with month := month, day := day } : Draft).inMorning
  let second ← draft.toTimestamp z
  if (second : Rat) < (← z.toCount now) then
    ({ draft with year := draft.year + 1 } : Draft).toTimestamp z
  else return second

/-- A day of a month or, failing that, of the week. -/
def readAbsolute : Rule := fun z now text =>
  match monthDay text with
  | .accept (month, day) _ => some <$> nextMonthDay z now month day
  | .fault cause _ => throw cause
  | .reject =>
    match weekday (Text.trimStart text) with
    | .accept weekday _ => some <$> morningAfter z now (now.date.daysUntil weekday)
    | _ => return none

/-- A time of day: today's, or, if that is past, the time 24 hours after it. -/
def readTime : Rule := fun z now text =>
  match timeOfDay text with
  | .accept (hour, minute) _ => do
    let second ← ((Draft.ofLocal now).atTime hour minute 0).toTimestamp z
    if (second : Rat) < (← z.toCount now) then return some (second + 86400)
    else return some second
  | .reject => return none
  | .fault cause _ => throw cause

def rules : List Rule := [readRelative, readAbsolute, readTime]

/-- The first rule that recognizes the text. -/
def firstRule : List Rule → Rule
  | [], _, _, _ => return none
  | rule :: more, z, now, text => do
    match ← rule z now text with
    | some second => return some second
    | none => firstRule more z now text

/-- The text, unless it is missing or holds nothing but blanks. -/
def usable? : Option Text → Option Text
  | some text => if Text.isBlankText text then none else some text
  | none => none

/-- The second that a phrase names, or none if it names none. -/
def resolve (clock : WallClock) (anchor : Anchor) (text : Option Text) :
    Except Fault (Option Int) := do
  match usable? text with
  | none => return none
  | some text => firstRule rules clock.zone (← clock.resolve anchor) text

/-- The second of the next time of day that a phrase names, or none if it names none. -/
def resolveTime (clock : WallClock) (anchor : Anchor) (text : Option Text) :
    Except Fault (Option Int) := do
  match usable? text with
  | none => return none
  | some text => readTime clock.zone (← clock.resolve anchor) text

end Agenda.Phrase
