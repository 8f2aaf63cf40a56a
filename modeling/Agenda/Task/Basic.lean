import Agenda.Text.Alphabet
import Agenda.Text.Blank

/-!
Tasks, with the fields that filters and orders look at.
-/

namespace Agenda

inductive Priority where
  | low
  | medium
  | high
  deriving DecidableEq, Repr

namespace Priority

def all : List Priority := [low, medium, high]

def name : Priority → Text
  | low => "low".toList
  | medium => "medium".toList
  | high => "high".toList

def rank : Priority → Nat
  | low => 0
  | medium => 1
  | high => 2

/-- The priority of a name, in any case and between blanks. -/
def ofName? (raw : Option Text) : Option Priority := do
  let key := Text.lower (Text.trim (← raw))
  all.find? fun priority => priority.name = key

end Priority

inductive Status where
  | pending
  | done
  deriving DecidableEq, Repr

namespace Status

def all : List Status := [pending, done]

def name : Status → Text
  | pending => "pending".toList
  | done => "done".toList

/-- The status of a name, in any case and between blanks. -/
def ofName? (raw : Option Text) : Option Status := do
  let key := Text.lower (Text.trim (← raw))
  all.find? fun status => status.name = key

def flip : Status → Status
  | pending => done
  | done => pending

end Status

/-- A task. A due or creation second of 0 stands for none; texts and the due second may be
missing. -/
structure Task where
  name : Option Text
  due : Option Int
  tags : List (Option Text)
  priority : Priority
  status : Status
  project : Option Text
  note : Option Text
  created : Int
  deriving DecidableEq, Repr

namespace Task

/-- A new task of the given name in the default project. -/
def ofName (name : Text) : Task :=
  ⟨some name, some 0, [], .medium, .pending, some "default".toList, some [], 0⟩

def isDone (task : Task) : Bool := task.status == .done

/-- The due second is not 0. One that is missing counts as a due date. -/
def hasDue (task : Task) : Bool := task.due != some 0

end Task

end Agenda
