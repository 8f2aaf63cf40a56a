import Agenda.Text.Basic
import Agenda.Text.Entries

/-!
JSON values, with strings in some alphabet. A number is kept as it is written, and an object keeps
its fields in the order in which their names first occur.
-/

namespace Agenda.Json

inductive Value (α : Type := Char) where
  | null
  | bool (b : Bool)
  | number (literal : Text)
  | string (t : List α)
  | array (items : List (Value α))
  | object (fields : List (List α × Value α))
  deriving Inhabited

namespace Value

/-- The value of a field, if this is an object that has it. -/
def field? {α : Type} [DecidableEq α] (name : List α) : Value α → Option (Value α)
  | object fields => Text.entry? name fields
  | _ => none

end Value

end Agenda.Json
