/-!
Lists of named entries in the order in which their names first came.
-/

namespace Agenda.Text

variable {ν α : Type} [DecidableEq ν]

/-- The entries with one more. A name that is there already keeps its place and takes the new
value. -/
def putEntry (name : ν) (value : α) : List (ν × α) → List (ν × α)
  | [] => [(name, value)]
  | entry :: rest =>
    if entry.1 = name then (name, value) :: rest else entry :: putEntry name value rest

def entry? (name : ν) (entries : List (ν × α)) : Option α :=
  (entries.find? fun entry => entry.1 = name).map Prod.snd

end Agenda.Text
