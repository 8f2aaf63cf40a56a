import Agenda.Clock.Anchor
import Agenda.Text.Alphabet

/-!
Date windows: spans of due seconds, and the named ones that start and end with local days.
-/

namespace Agenda.DueDate

open Calendar Clock

/-- The due seconds from `start` to `stop`. A bound of 0 leaves its side open. -/
structure Window where
  start : Int
  stop : Int
  deriving DecidableEq, Repr

namespace Window

def everything : Window := ⟨0, 0⟩

def isUnbounded (w : Window) : Bool := w.start = 0 && w.stop = 0

/-- The due second lies in the window. One that is missing or 0 lies in none. -/
def holds (w : Window) : Option Int → Bool
  | none => false
  | some due =>
    if due = 0 then false
    else if w.start ≠ 0 ∧ due < w.start then false
    else if w.stop ≠ 0 ∧ w.stop < due then false
    else true

end Window

inductive Period where
  | today
  | tomorrow
  | thisWeek
  | nextWeek
  | overdue
  deriving DecidableEq, Repr

namespace Period

def all : List Period := [today, tomorrow, thisWeek, nextWeek, overdue]

def name : Period → Text
  | today => "today".toList
  | tomorrow => "tomorrow".toList
  | thisWeek => "this_week".toList
  | nextWeek => "next_week".toList
  | overdue => "overdue".toList

def ofName? (raw : Option Text) : Option Period := do
  let key := Text.lower (Text.trim (← raw))
  all.find? fun period => period.name = key

/-- Sunday, with Monday counted as 0. -/
def sunday : Int := 6

/-- The window of a name, seen from today. A week ends with Sunday, and on a Sunday this week goes
on to the next one. -/
def window (z : Zone) (today : Date) : Period → Except Fault Window
  | .today => do return ⟨← z.dayStart today, ← z.dayEnd today⟩
  | .tomorrow => do
    let date ← today.addDays 1
    return ⟨← z.dayStart date, ← z.dayEnd date⟩
  | .thisWeek => do
    let last ← today.addDays (today.daysUntil sunday)
    return ⟨← z.dayStart today, ← z.dayEnd last⟩
  | .nextWeek => do
    let first ← today.addDays (today.daysUntil 0)
    let start ← z.dayStart first
    return ⟨start, ← z.dayEnd (← first.addDays 6)⟩
  | .overdue => do return ⟨0, (← z.dayStart today) - 1⟩

end Period

/-- The window of a name. A name that means none leaves both sides open. -/
def window (clock : WallClock) (anchor : Anchor) (name : Option Text) : Except Fault Window :=
  match Period.ofName? name with
  | none => return .everything
  | some period => do period.window clock.zone (← clock.resolve anchor).date

end Agenda.DueDate
