import Agenda.Text.Alphabet
import Agenda.Text.Blank
import Agenda.Text.Entries

/-!
Tables of slash commands: what a command line calls, by name or alias, and the help on every
command.
-/

namespace Agenda.Console

/-- Commands with their help, in the order in which they first came. -/
structure Table (H : Type) where
  handlers : List (Text × H)
  help : List (Text × Text)

/-- What a line calls for. -/
inductive Call (H : Type) where
  | notCommand
  | nameless
  | unknown (name : Text)
  | known (handler : H) (args : List Text)

namespace Table

variable {H : Type}

def empty : Table H := ⟨[], []⟩

/-- The table with one more command. Names are kept in lowercase, and a later command takes over
the names of an earlier one. -/
def register (table : Table H) (name : Text) (handler : H) (help : Text) (aliases : List Text) :
    Table H :=
  let named := Text.putEntry (Text.lower name) handler table.handlers
  ⟨aliases.foldl (fun known other => Text.putEntry (Text.lower other) handler known) named,
    Text.putEntry (Text.lower name) help table.help⟩

/-- What a line calls for: the first word after the slash is the name, and the others are the
arguments. -/
def call (table : Table H) : Text → Call H
  | '/' :: line =>
    match Text.words line with
    | [] => .nameless
    | name :: args =>
      match Text.entry? (Text.lower name) table.handlers with
      | some handler => .known handler args
      | none => .unknown (Text.lower name)
  | _ => .notCommand

def helpText (table : Table H) : Text :=
  let lines := table.help.map fun (name, help) =>
    "  /".toList ++ name ++ " - ".toList ++ help
  Text.join ['\n'] ("Available commands:".toList :: lines)

end Table

namespace Call

/-- The reply to a line that calls for no known command. -/
def refusal? {H : Type} : Call H → Option Text
  | .nameless => some "Empty command. Use /help to list available commands.".toList
  | .unknown name =>
    some ("Unknown command: /".toList ++ name ++
      ". Use /help to list available commands.".toList)
  | _ => none

end Call

end Agenda.Console
