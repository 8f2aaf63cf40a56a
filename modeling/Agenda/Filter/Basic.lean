import Agenda.DueDate.Window
import Agenda.Task.Basic

/-!
Filters: lists of conditions that a task has to meet, all of them. A condition asks for a date
window, a priority or a status by name, and a name that means none asks for nothing; or it asks
for a text that occurs in the task. Filters are made in any alphabet, and tested on tasks in
characters.
-/

namespace Agenda

open Clock

inductive FilterKind where
  | date
  | priority
  | status
  deriving DecidableEq, Repr

namespace FilterKind

def all : List FilterKind := [date, priority, status]

def name : FilterKind → Text
  | date => "date".toList
  | priority => "priority".toList
  | status => "status".toList

def ofName? (raw : Text) : Option FilterKind :=
  let key := Text.lower (Text.trim raw)
  all.find? fun kind => kind.name = key

end FilterKind

inductive Predicate (α : Type := Char) where
  | named (kind : FilterKind) (value : List α)
  | text (needle : List α)
  deriving DecidableEq, Repr

namespace Predicate

/-- The text occurs in the other one if case is left out of account. -/
def occurs (needle : Text) (hay : Option Text) : Bool :=
  Text.occursIn needle (Text.lower (hay.getD []))

/-- The text occurs in the name, a tag, the project or the note. -/
def textHolds (needle : Text) (task : Task) : Bool :=
  let needle := Text.lower needle
  needle.isEmpty || occurs needle task.name || task.tags.any (occurs needle) ||
    occurs needle task.project || occurs needle task.note

/-- The due date lies in the window of a name. -/
def dateHolds (clock : WallClock) (anchor : Anchor) (name : Text) (task : Task) :
    Except Fault Bool := do
  let window ← DueDate.window clock anchor (some name)
  return window.isUnbounded || window.holds task.due

def holds (clock : WallClock) (anchor : Anchor) (task : Task) : Predicate → Except Fault Bool
  | named .date name => dateHolds clock anchor name task
  | named .priority level =>
    return match Priority.ofName? (some level) with
      | some wanted => task.priority == wanted
      | none => true
  | named .status state =>
    return match Status.ofName? (some state) with
      | some wanted => task.status == wanted
      | none => true
  | text needle => return textHolds needle task

def ofDirective {α : Type} [Alphabet α] (kind : Text) (value : List α) :
    Except Fault (Predicate α) :=
  match FilterKind.ofName? kind with
  | some known => .ok (named known (Text.lower (Text.trim value)))
  | none => .error (.unknownKind kind)

end Predicate

structure Filter (α : Type := Char) where
  predicates : List (Predicate α)
  deriving DecidableEq, Repr

namespace Filter

section

variable {α : Type}

def empty : Filter α := ⟨[]⟩

def isEmpty (f : Filter α) : Bool := f.predicates.isEmpty

def and (f g : Filter α) : Filter α := ⟨f.predicates ++ g.predicates⟩

end

/-- All conditions hold. The first that does not hold ends the test. -/
def allHold (clock : WallClock) (now : LocalTime) (task : Task) :
    List Predicate → Except Fault Bool
  | [] => return true
  | p :: rest => do
    if ← p.holds clock (.localTime now) task then allHold clock now task rest else return false

/-- The task passes the filter. The clock is not asked if there are no conditions. -/
def passes (clock : WallClock) (anchor : Anchor) (f : Filter) (task : Task) :
    Except Fault Bool := do
  if f.isEmpty then return true
  let now ← clock.resolve anchor
  allHold clock now task f.predicates

/-- The tasks of a list that pass a filter, in order, with their places, counted from `i`. -/
def selectFrom (clock : WallClock) (now : LocalTime) (f : Filter) (i : Nat) :
    List Task → Except Fault (List (Nat × Task))
  | [] => return []
  | task :: rest => do
    let keep ← f.passes clock (.localTime now) task
    let more ← selectFrom clock now f (i + 1) rest
    return if keep then (i, task) :: more else more

/-- The tasks that pass a filter, in order, with their places. All are tested at one time. -/
def select (clock : WallClock) (anchor : Anchor) (f : Filter) (tasks : List Task) :
    Except Fault (List (Nat × Task)) := do
  let now ← clock.resolve anchor
  selectFrom clock now f 0 tasks

end Filter

end Agenda
