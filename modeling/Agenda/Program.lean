import Agenda.Console.Loop
import Agenda.Log.Line
import Agenda.Startup

/-!
The program as a whole: settings, log, session, console and the end, on given lines.
-/

namespace Agenda.Program

open Clock Files Log Console Startup

/-- The table of line styles, which is no level. -/
def styleTable : Text :=
  ("\x7b'%': (<class 'logging.PercentStyle'>, '%(levelname)s:%(name)s:%(message)s'), " ++
    "'\x7b': (<class 'logging.StrFormatStyle'>, " ++
    "'\x7blevelname\x7d:\x7bname\x7d:\x7bmessage\x7d'), " ++
    "'$': (<class 'logging.StringTemplateStyle'>, " ++
    "'$\x7blevelname\x7d:$\x7bname\x7d:$\x7bmessage\x7d')\x7d").toList

def levels : List (Text × Int) :=
  [("CRITICAL".toList, critical), ("FATAL".toList, critical), ("ERROR".toList, error),
   ("WARNING".toList, warning), ("WARN".toList, warning), ("INFO".toList, info),
   ("DEBUG".toList, debug), ("NOTSET".toList, 0)]

/-- The least level that the console shows. An unknown name means the level for information,
except for two names that belong to the log and are no levels. -/
def threshold (name : Text) : Except Fault Int :=
  match Text.entry? name levels with
  | some level => .ok level
  | none =>
    if name = "BASIC_FORMAT".toList then
      .error (.levelUnknown "%(levelname)s:%(name)s:%(message)s".toList)
    else if name = "_STYLES".toList then .error (.levelNotNumber styleTable)
    else .ok info

/-- A tree in which the log can be written, and the level of the console. -/
structure Prepared where
  result : Except Fault Int
  tree : Tree

def logFile (settings : Settings) : Path := settings.logFolder.child fileName

/-- Makes the folder and the file of the log. -/
def prepareLog (host : Host) (settings : Settings) (tree : Tree) : Prepared :=
  match tree.makeFolders host.disk settings.logFolder with
  | (.error fault, tree) => ⟨.error fault, tree⟩
  | (.ok _, tree) =>
    match threshold settings.logLevel with
    | .error fault => ⟨.error fault, tree⟩
    | .ok level =>
      match tree.append host.disk (logFile settings) .empty with
      | (.ok _, tree) => ⟨.ok level, tree⟩
      | (.error fault, tree) => ⟨.error fault, tree⟩

/-- The tree with a record at the end of the log file, as far as the file can be written. -/
def appendToLog (host : Host) (settings : Settings) (clock : WallClock) (tree : Tree) (r : Record) :
    Tree :=
  (tree.append host.disk (logFile settings) (Text.toBytes (lineNow clock r ++ ['\n']))).2

def record (message : Text) : Record := Source.program.record info message

def startRecord (settings : Settings) : Record :=
  record ("Starting ".toList ++ settings.appName ++ "...".toList)

def idleRecord : Record :=
  record "Console disabled (SMARTODO_CONSOLE_ENABLED=false); nothing to do.".toList

def endRecord : Record := record "Bye.".toList

/-- A run up to its session: the session unless there was a failure, the least level that the
console shows, the records, and the tree. -/
structure Started where
  result : Except Fault Session
  level : Int
  log : List Record
  tree : Tree

/-- Makes the log and the session ready. There are no records before the log is ready, and the
first one is in the log file before saved filters are read. -/
def start (host : Host) (settings : Settings) (clock : WallClock) (tree : Tree) : Started :=
  let prepared := prepareLog host settings tree
  match prepared.result with
  | .error fault => ⟨.error fault, info, [], prepared.tree⟩
  | .ok level =>
    let tree := appendToLog host settings clock prepared.tree (startRecord settings)
    let opened := openSession host tree settings.dataFolder settings.presetsFile
    ⟨opened.result, level, startRecord settings :: opened.log, opened.tree⟩

/-- The session of a run: on the console, if that is enabled. -/
def converseIfEnabled {m : Type → Type} [Monad m] (settings : Settings)
    (deliver : Transcript → m Transcript) (talk : Transcript → m Conversation) (clock : WallClock)
    (s : Session) : m Conversation := do
  if settings.consoleEnabled then runConsole deliver talk clock s
  else return ⟨.ok (), ← deliver ⟨s, [], [idleRecord]⟩⟩

/-- The end of a run: the saved filters are written. -/
def finish (host : Host) (settings : Settings) (presets : Presets) (tree : Tree) :
    Tree × List Record :=
  let (tree, log) := savePresets host presets tree settings.presetsFile
  (tree, log ++ [endRecord])

/-- What a run of the program leads to: the result, the text that was shown, the records that the
console shows, and the tree. -/
structure Outcome where
  result : Except Fault Unit
  shown : Text
  log : List Record
  tree : Tree

/-- A run with given settings. Once a session is open, its saved filters are written whatever the
console leads to. -/
def runWith (host : Host) (settings : Settings) (clock : WallClock) (tree : Tree) (ending : Ending)
    (lines : List Text) : Outcome :=
  let started := start host settings clock tree
  let visible (log : List Record) := log.filter (isShown started.level)
  match started.result with
  | .error fault => ⟨.error fault, [], visible started.log, started.tree⟩
  | .ok s =>
    let talk := Id.run (converseIfEnabled settings pure
      (fun t => pure (converse clock ending t lines)) clock s)
    let (tree, log) := finish host settings talk.transcript.session.presets started.tree
    ⟨talk.result, talk.transcript.shown, visible (started.log ++ talk.transcript.log ++ log), tree⟩

def run (host : Host) (env : Settings.Environment) (clock : WallClock) (tree : Tree)
    (ending : Ending) (lines : List Text) : Outcome :=
  match Settings.ofEnvironment host.accounts env with
  | .error fault => ⟨.error fault, [], [], tree⟩
  | .ok settings => runWith host settings clock tree ending lines

end Agenda.Program
