import Agenda.Text.Basic

/-!
The names of weekdays and months, in lowercase.
-/

namespace Agenda.Calendar

/-- The weekdays from Monday on. -/
def weekdayNames : List Text :=
  ["monday", "tuesday", "wednesday", "thursday", "friday", "saturday", "sunday"].map String.toList

/-- The months from January on. -/
def monthNames : List Text :=
  ["january", "february", "march", "april", "may", "june", "july", "august", "september",
    "october", "november", "december"].map String.toList

def capitalized : Text → Text
  | [] => []
  | c :: rest => c.toUpper :: rest

end Agenda.Calendar
