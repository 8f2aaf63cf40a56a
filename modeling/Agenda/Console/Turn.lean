import Agenda.Console.Session
import Agenda.DueDate.Resolve
import Agenda.Filter.Token
import Agenda.Preset.Store

/-!
What the commands do to a session. A command answers with a reply or fails, and in both cases
leaves a session behind.
-/

namespace Agenda.Console

open Clock Log

/-- The outcome of a command: the reply, the session it leaves behind, the lines it has shown
before, and the records it has made. -/
structure Turn where
  reply : Except Fault Text
  session : Session
  shown : List Text
  log : List Record

/-- Shows a line before the reply, in its own way. -/
abbrev Emitter := Text → Except Fault Text

namespace Session

def answer (s : Session) (reply : Except Fault Text) : Turn := ⟨reply, s, [], []⟩

def say (s : Session) (reply : String) : Turn := s.answer (.ok reply.toList)

/-- The second in words and in figures, or the complaint that the phrase was not understood. -/
def explain (clock : WallClock) (complaint : String) (phrase : Text) :
    Option Int → Except Fault Text
  | none => return complaint.toList ++ phrase
  | some second => do
    let words ← DueDate.wording clock .present (DueDate.instant? second)
    let figures ← secondText clock second
    return words ++ " (".toList ++ figures ++ [')']

def explainDue (s : Session) (clock : WallClock) (args : List Text) : Turn :=
  let phrase := Text.join [' '] args
  if phrase = [] then s.say "Usage: /due <phrase>, e.g. /due next monday"
  else s.answer do
    explain clock "Could not understand date: " phrase
      (← DueDate.resolve clock .present (some phrase))

def explainTime (s : Session) (clock : WallClock) (args : List Text) : Turn :=
  let phrase := Text.join [' '] args
  if phrase = [] then s.say "Usage: /at <time>, e.g. /at 2:30pm"
  else s.answer do
    explain clock "Could not understand time: " phrase
      (← Phrase.resolveTime clock .present (some phrase))

def explainWindow (s : Session) (clock : WallClock) : List Text → Turn
  | [] =>
    s.answer (.ok ("Usage: /range <preset>. Presets: ".toList ++
      Text.join ", ".toList (DueDate.Period.all.map DueDate.Period.name)))
  | name :: _ => s.answer do
    let window ← DueDate.window clock .present (some name)
    if window.isUnbounded then
      return "Unknown preset: ".toList ++ name ++ " (no date bounds).".toList
    let start ← if window.start = 0 then pure ['-'] else secondText clock window.start
    let stop ← secondText clock window.stop
    return name ++ ": ".toList ++ start ++ " .. ".toList ++ stop

/-- The parts of a new task: the words of its name, its tags and its priority. -/
structure TaskParts where
  words : List Text
  tags : List Text
  priority : Priority

/-- The parts with one more argument: a tag, a priority or a word. -/
def TaskParts.take (parts : TaskParts) (arg : Text) : TaskParts :=
  match arg with
  | '#' :: c :: tag => { parts with tags := parts.tags ++ [c :: tag] }
  | '!' :: level =>
    match Priority.ofName? (some level) with
    | some priority => { parts with priority := priority }
    | none => { parts with words := parts.words ++ [arg] }
  | _ => { parts with words := parts.words ++ [arg] }

/-- The arguments of a new task up to the sign before the due date, and the due date after it. -/
def splitDue (args : List Text) : List Text × Text :=
  (args.takeWhile (· != ['@']), Text.join [' '] ((args.dropWhile (· != ['@'])).drop 1))

/-- The second of a due date, 0 if the text is empty, or none if it is not understood. -/
def dueSecond (clock : WallClock) (phrase : Text) : Except Fault (Option Int) :=
  if phrase = [] then return some 0 else DueDate.resolve clock .present (some phrase)

def taskRecord (name : Text) (due : Int) (priority : Priority) : Record :=
  Source.commands.record debug
    ("Task added name=".toList ++ Text.quoted name ++ " due=".toList ++ Text.ofInt due ++
      " priority=".toList ++ priority.name)

/-- Adds a task at the end of the list. -/
def addTask (s : Session) (clock : WallClock) (args : List Text) : Turn :=
  if args = [] then s.say "Usage: /add <name> [#tag] [!priority] [@ <due phrase>]"
  else
    let (fields, phrase) := splitDue args
    let parts := fields.foldl TaskParts.take ⟨[], [], .medium⟩
    let name := Text.trim (Text.join [' '] parts.words)
    if name = [] then s.say "Task name is required."
    else
      match dueSecond clock phrase with
      | .error fault => s.answer (.error fault)
      | .ok none => s.answer (.ok ("Could not understand date: ".toList ++ phrase))
      | .ok (some due) =>
        match clock.seconds.whole with
        | .error fault => s.answer (.error fault)
        | .ok created =>
          let task := { Task.ofName name with
            due := some due, tags := parts.tags.map some, priority := parts.priority,
            created := created }
          let tasks := s.tasks ++ [task]
          let reply := do return "Added: ".toList ++ (← taskText clock tasks.length task)
          ⟨reply, { s with tasks := tasks }, [], [taskRecord name due parts.priority]⟩

def flipAt (s : Session) (place : Nat) : Session :=
  { s with tasks := s.tasks.modify place fun task => { task with status := task.status.flip } }

/-- Changes the status of the task that the list shows under a number. -/
def toggle (s : Session) (clock : WallClock) (args : List Text) : Turn :=
  match s.visible clock with
  | .error fault => s.answer (.error fault)
  | .ok tasks =>
    match args.head?.bind Text.toInt? with
    | none => s.say "Usage: /done <n> (number from /list)"
    | some number =>
      match if number < 1 then none else tasks[number.toNat - 1]? with
      | none =>
        s.answer (.ok ("No task #".toList ++ Text.ofInt number ++ " in the current list.".toList))
      | some (place, task) =>
        ⟨.ok ("Task '".toList ++ shown task.name ++ "' is now ".toList ++ task.status.flip.name ++
          ['.']), s.flipAt place, [], []⟩

/-- The lines of tasks, numbered from the given number on. -/
def taskLines (clock : WallClock) (number : Nat) : List Task → Except Fault (List Text)
  | [] => return []
  | task :: rest => do
    let line ← taskText clock number task
    return line :: (← taskLines clock (number + 1) rest)

/-- The tasks that pass the filter in use, a line each under a heading. -/
def listing (s : Session) (clock : WallClock) : Except Fault Text := do
  let tasks ← s.visible clock
  let heading := if s.active.isEmpty then "All tasks".toList
    else "Filter: ".toList ++ s.active.token
  if tasks.isEmpty then return heading ++ "\n  (no tasks)".toList
  return Text.join ['\n'] (heading :: (← taskLines clock 1 (tasks.map Prod.snd)))

/-- Shows the tasks. Arguments are a token whose filter comes into use before that. -/
def list (s : Session) (clock : WallClock) (args : List Text) : Turn :=
  if args = [] then s.answer (s.listing clock)
  else
    match Filter.parse (Text.join [' '] args) with
    | .error fault => s.answer (.error fault)
    | .ok f =>
      let s := { s with active := f }
      s.answer (s.listing clock)

/-- Takes the filter out of use. -/
def clear (s : Session) : Turn :=
  ({ s with active := .empty } : Session).say "Filter cleared."

def sort (s : Session) (args : List Text) : Turn :=
  let field := args.headD "due".toList
  match Task.sort (some field) s.tasks with
  | .ok tasks =>
    ({ s with tasks := tasks } : Session).answer (.ok ("Sorted by ".toList ++ field ++ ['.']))
  | .error (.unknownField name) => s.answer (.ok (Fault.unknownField name).message)
  | .error fault => s.answer (.error fault)

def presetUsage : String :=
  "Usage: /preset list | save <name> <filter> | use <name> | rm <name>"

def noPreset (name : Text) : Text := "No saved filter named '".toList ++ name ++ "'.".toList

def listPresets (s : Session) : Turn :=
  if s.presets.size = 0 then s.say "No saved filters."
  else
    let lines := s.presets.names.map fun name =>
      ' ' :: ' ' :: name ++ ": ".toList ++ ((s.presets.get? name).map Filter.token).getD []
    s.answer (.ok (Text.join ['\n'] ("Saved filters:".toList :: lines)))

def savePreset (s : Session) (name token : Text) : Turn :=
  let (outcome, presets) := s.presets.addToken name token
  let s := { s with presets := presets }
  match outcome with
  | .error fault => s.answer (.ok fault.message)
  | .ok f =>
    ⟨.ok ("Saved filter '".toList ++ name ++ "': ".toList ++ f.token), s, [],
      [Presets.addedRecord name f]⟩

/-- Brings a saved filter into use and shows the tasks. The filter is shown before them. -/
def usePreset (s : Session) (clock : WallClock) (emit : Option Emitter) (name : Text) : Turn :=
  match s.presets.get? name with
  | none => s.answer (.ok (noPreset name))
  | some f =>
    let s := { s with active := f }
    match emit with
    | none => s.list clock []
    | some emit =>
      match emit ("Filter: ".toList ++ f.token) with
      | .error fault => s.answer (.error fault)
      | .ok line => { s.list clock [] with shown := [line] }

def removePreset (s : Session) (name : Text) : Turn :=
  let (there, presets) := s.presets.remove name
  let s := { s with presets := presets }
  s.answer (.ok
    (if there then "Removed filter '".toList ++ name ++ "'.".toList else noPreset name))

def managePresets (s : Session) (clock : WallClock) (emit : Option Emitter) : List Text → Turn
  | [] => s.say presetUsage
  | sub :: args =>
    let sub := Text.lower sub
    if sub = "list".toList then s.listPresets
    else if sub = "save".toList then
      match args with
      | name :: word :: words => s.savePreset name (Text.join [' '] (word :: words))
      | _ => s.say presetUsage
    else if sub = "use".toList then
      match args with
      | name :: _ => s.usePreset clock emit name
      | [] => s.say presetUsage
    else if (["rm", "remove", "delete"].map String.toList).contains sub then
      match args with
      | name :: _ => s.removePreset name
      | [] => s.say presetUsage
    else s.say presetUsage

end Session

end Agenda.Console
