import Agenda.Console.Table
import Agenda.Console.Turn

/-!
The commands of the console and the handling of its lines.
-/

namespace Agenda.Console

open Clock Log

inductive Command where
  | help
  | due
  | time
  | window
  | add
  | toggle
  | list
  | clear
  | sort
  | presets
  deriving DecidableEq, Repr

def commands : Table Command :=
  let on (table : Table Command) (name : String) (command : Command) (help : String)
      (aliases : List String) :=
    table.register name.toList command help.toList (aliases.map String.toList)
  let table := on .empty "help" .help "Show available commands." ["h", "?"]
  let table := on table "due" .due "Resolve a date phrase: /due next monday." []
  let table := on table "at" .time "Resolve a time of day: /at 2:30pm." []
  let table := on table "range" .window "Show a date window: /range this_week." []
  let table := on table "add" .add "Add a task: /add call bob #work !high @ tomorrow." []
  let table := on table "done" .toggle "Toggle done for task n of the current list." []
  let table := on table "list" .list
    "List tasks, optionally filtered: /list [date:today] milk." ["ls"]
  let table := on table "clear" .clear "Clear the active filter." []
  let table := on table "sort" .sort "Sort tasks: /sort name|due|creation." []
  on table "preset" .presets "Saved filters: /preset list | save | use | rm." []

namespace Session

def run (s : Session) (clock : WallClock) (emit : Option Emitter) (args : List Text) :
    Command → Turn
  | .help => s.answer (.ok commands.helpText)
  | .due => s.explainDue clock args
  | .time => s.explainTime clock args
  | .window => s.explainWindow clock args
  | .add => s.addTask clock args
  | .toggle => s.toggle clock args
  | .list => s.list clock args
  | .clear => s.clear
  | .sort => s.sort args
  | .presets => s.managePresets clock emit args

/-- Handles a command line. A line without a slash in front gets no turn. -/
def command? (s : Session) (clock : WallClock) (emit : Option Emitter) (line : Text) :
    Option Turn :=
  match commands.call line with
  | .known command args => some (s.run clock emit args command)
  | call => call.refusal?.map fun reply => s.answer (.ok reply)

end Session

/-- The time of the clock in figures, for the lines of the console. It goes through universal
time, which must show a date as well. -/
def stamp (clock : WallClock) : Except Fault Text := do
  let now ← clock.resolve .present
  let second ← clock.zone.toSecond now
  let universal ← LocalTime.ofReading second now.micro false
  return timeText (← clock.zone.firstPass universal.reading now.micro)

/-- A line with the time in front. -/
def stamped (clock : WallClock) : Emitter := fun line => do
  return '[' :: (← stamp clock) ++ "] ".toList ++ line

/-- What a console line leads to: the reply if there is one, the session it leaves behind, the
lines shown before, and the records made. -/
structure Handled where
  reply : Option Text
  session : Session
  shown : List Text
  log : List Record

def crashReply : Text := "Internal error while handling a command.".toList

def crashRecord : Record := Source.console.record error "Command handler crashed.".toList

/-- The command line of a console line without outer blanks: a line without a slash in front is
a token to list tasks by. -/
def commandLine (line : Text) : Text :=
  if line.head? = some '/' then line else "/list ".toList ++ line

/-- Handles a console line. A command that fails is answered as well; a blank line is not. -/
def Session.handle (s : Session) (clock : WallClock) (line : Text) : Handled :=
  let line := Text.trim line
  if line = [] then ⟨none, s, [], []⟩
  else
    match s.command? clock (some (stamped clock)) (commandLine line) with
    | none => ⟨none, s, [], []⟩
    | some turn =>
      match turn.reply with
      | .ok reply => ⟨some reply, turn.session, turn.shown, turn.log⟩
      | .error _ => ⟨some crashReply, turn.session, turn.shown, turn.log ++ [crashRecord]⟩

end Agenda.Console
