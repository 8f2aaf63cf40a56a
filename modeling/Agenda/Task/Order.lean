import Agenda.Fault
import Agenda.Sorting.Runs
import Agenda.Task.Basic

/-!
Orders of tasks: by name, by due date and by creation. Tasks that a key does not tell apart keep
their places. Tasks that a key cannot compare are not sorted.
-/

namespace Agenda.Task

inductive SortKey where
  | name
  | due
  | created
  deriving DecidableEq, Repr

namespace SortKey

/-- The key of a name, in any case and between blanks. -/
def ofName? (raw : Text) : Option SortKey :=
  let key := Text.lower (Text.trim raw)
  if key = "name".toList then some name
  else if (["creation", "created"].map String.toList).contains key then some created
  else if (["due", "prio", "priority"].map String.toList).contains key then some due
  else none

end SortKey

/-- The order of names by code points. -/
def nameLe (a b : Task) : Bool := !decide (b.name.getD [] < a.name.getD [])

/-- The order of due seconds; a missing one comes before the others. Of equal ones the more
urgent task goes first. -/
def secondLe (a b : Task) : Bool :=
  match a.due, b.due with
  | some m, some n =>
    if m = n then decide (b.priority.rank ≤ a.priority.rank) else decide (m < n)
  | none, none => decide (b.priority.rank ≤ a.priority.rank)
  | none, some _ => true
  | some _, none => false

/-- Tasks without a due date go last. -/
def dueLe (a b : Task) : Bool := if a.hasDue ∧ b.hasDue then secondLe a b else !b.hasDue

def createdLe (a b : Task) : Bool := decide (a.created ≤ b.created)

/-- A task comes no later than another under a key. -/
def le : SortKey → Task → Task → Bool
  | .name => nameLe
  | .due => dueLe
  | .created => createdLe

def sortBy (key : SortKey) (tasks : List Task) : List Task := tasks.mergeSort (le key)

def requiredKey (field : Option Text) : Except Fault SortKey :=
  match SortKey.ofName? (field.getD []) with
  | some key => .ok key
  | none => .error (.unknownField field)

/-- The fault of a comparison under a key. A missing name cannot be compared at all, and a missing
due second not with one that is there. -/
def clash? (a b : Task) : SortKey → Option Fault
  | .name =>
    let side (task : Task) : Operand := if task.name.isNone then .missing else .text
    if a.name.isNone || b.name.isNone then some (.unordered (side a) (side b)) else none
  | .due =>
    let side (task : Task) : Operand := if task.due.isNone then .missing else .number
    if a.hasDue && b.hasDue && a.due.isNone != b.due.isNone then
      some (.unordered (side a) (side b))
    else none
  | .created => none

/-- A task comes before another under a key. -/
def before (key : SortKey) (a b : Task) : Except Fault Bool :=
  match clash? a b key with
  | some fault => .error fault
  | none => .ok (!le key b a)

/-- No two of the tasks clash under a key. -/
def areComparable (tasks : List Task) : SortKey → Bool
  | .name => tasks.length < 2 || tasks.all fun task => task.name.isSome
  | .due =>
    tasks.all (fun task => task.due.isSome) ||
      tasks.all fun task => task.due.isNone || !task.hasDue
  | .created => true

/-- The comparison under a key that fails first, if tasks clash. Which one that is depends on the
order in which the tasks are compared, and the sort by runs fixes that. -/
def keyFault? (key : SortKey) (tasks : List Task) : Option Fault :=
  if areComparable tasks key then none
  else
    match Sorting.sort (before key) tasks with
    | .ok _ => none
    | .error fault => some fault

/-- The key that a name means, if it orders the tasks. -/
def usableKey (field : Option Text) (tasks : List Task) : Except Fault SortKey := do
  let key ← requiredKey field
  match keyFault? key tasks with
  | some fault => throw fault
  | none => return key

def sort (field : Option Text) (tasks : List Task) : Except Fault (List Task) := do
  return sortBy (← usableKey field tasks) tasks

/-- The places of the tasks in the order of the key that a name means. -/
def sortPlaces (field : Option Text) (tasks : List Task) : Except Fault (List Nat) := do
  let key ← usableKey field tasks
  return (tasks.zipIdx.mergeSort fun a b => le key a.1 b.1).map Prod.snd

end Agenda.Task
