import Agenda.DueDate.Wording
import Agenda.Filter.Basic
import Agenda.Log.Record
import Agenda.Preset.Registry
import Agenda.Task.Order

/-!
Console sessions: the tasks, the saved filters and the filter in use, and how tasks are shown. Their
texts are texts of characters: what is no character in a file of saved filters is loaded as the
replacement sign.
-/

namespace Agenda.Console

open Clock DueDate

structure Session where
  presets : Presets
  tasks : List Task
  active : Filter
  deriving DecidableEq

/-- The text of a field, or the word for a missing one. -/
def shown (field : Option Text) : Text := field.getD "None".toList

def timeText (t : LocalTime) : Text :=
  Text.ofNat t.date.year ++ '-' :: Text.padded 2 t.date.month ++ '-' :: Text.padded 2 t.date.day ++
    ' ' :: t.time.text

def secondText (clock : WallClock) (second : Int) : Except Fault Text := do
  return timeText (← clock.zone.toLocal (.ofSeconds second))

/-- The tags of a task, each after a space and a mark. None may be missing. -/
def tagsText (tags : List (Option Text)) : Except Fault Text :=
  match tags.findIdx? Option.isNone with
  | some i => .error (.missingTag i)
  | none => .ok (tags.flatMap fun tag => ' ' :: '#' :: tag.getD [])

/-- The line of a task: its number, a mark if it is done, and its fields. -/
def taskText (clock : WallClock) (number : Nat) (task : Task) : Except Fault Text := do
  let mark := if task.isDone then 'x' else ' '
  let tags ← tagsText task.tags
  let due ← wording clock .present (task.due.bind instant?)
  return Text.ofNat number ++ ". [".toList ++ mark :: "] ".toList ++ shown task.name ++
    " (".toList ++ task.priority.name ++ ", ".toList ++ shown task.project ++ [')'] ++ tags ++
    " - ".toList ++ due

namespace Session

def empty : Session := ⟨.empty, [], .empty⟩

/-- The tasks that pass the filter in use, with their places among all tasks. -/
def visible (s : Session) (clock : WallClock) : Except Fault (List (Nat × Task)) :=
  s.active.select clock .present s.tasks

end Session

end Agenda.Console
