import Agenda.Program
import Std.Time.DateTime.Timestamp

/-!
The command line: the program on the clock, the environment, the disk and the terminal of the
machine.
-/

namespace Agenda.Machine

open Clock Files Log Console Startup

def variableNames : List String :=
  ["HOME", "SMARTODO_APP_NAME", "SMARTODO_LOG_LEVEL", "SMARTODO_CONSOLE_ENABLED",
   "SMARTODO_DATA_DIR", "SMARTODO_LOG_DIR", "SMARTODO_PRESETS_PATH"]

def readEnvironment : IO Settings.Environment :=
  variableNames.filterMapM fun name => do
    return (← IO.getEnv name).map fun value => (name.toList, value.toList)

/-- The homes of the accounts of the machine, if it has a list of them. -/
def readAccounts : IO Path.Homes := do
  let lines ← try IO.FS.lines "/etc/passwd" catch _ => pure #[]
  return lines.toList.filterMap fun line =>
    match Text.pieces ':' line.toList with
    | user :: _ :: _ :: _ :: _ :: home :: _ => some (user, home)
    | _ => none

/-- The machine as the program meets it. What the disk refuses is a failure of the run. -/
def readHost : IO Host := do
  return ⟨← readAccounts, 990, .calm⟩

/-- The clock of the machine, in universal time unless its zone is one of the library. -/
def readClock : IO WallClock := do
  let now ← Std.Time.Timestamp.now
  let nanos := now.toNanosecondsSinceUnixEpoch.toInt
  let zone := ((← IO.getEnv "TZ").bind fun name => Zone.ofName? name.toList).getD .utc
  return ⟨zone, .ofRat (mkRat nanos 1000000000)⟩

/-- What stands at a path of the disk whose folder is there. -/
def readEntry (p : Path) : IO (Option Entry) := do
  try
    return some (.file (← IO.FS.readBinFile (String.ofList p.text)))
  catch
    | .noFileOrDirectory .. => return none
    | .inappropriateType .. => return some .folder
    | e => throw e

/-- The tree with what stands on the disk along a path. -/
def readAlong (tree : Tree) (p : Path) : IO Tree :=
  (List.range p.parts.length).foldlM (fun tree n => do
    let part : Path := ⟨p.root, p.parts.take (n + 1)⟩
    match tree.place part with
    | .error _ => return tree
    | .ok place =>
      if Tree.isTop place then return tree
      match ← readEntry part with
      | some entry => return tree.set place entry
      | none => return tree) tree

/-- The part of the disk that the program works on. -/
def readTree (settings : Settings) : IO Tree := do
  let draft := (settings.presetsFile.withSuffix Presets.draftSuffix).toOption.toList
  let paths := settings.dataFolder :: Program.logFile settings :: settings.presetsFile :: draft
  paths.foldlM readAlong Tree.empty

/-- The entries are of one kind and have the same content. -/
def sameEntry : Entry → Entry → Bool
  | .folder, .folder => true
  | .file a, .file b => a.data == b.data
  | _, _ => false

/-- Brings the disk from one tree to another. -/
def writeTree (old new : Tree) : IO Unit := do
  for (place, entry) in new.entries do
    if !(old.entryAt? place).any (sameEntry entry) then
      match entry with
      | .folder => IO.FS.createDir (String.ofList place.text)
      | .file content => IO.FS.writeBinFile (String.ofList place.text) content
  for (place, _) in old.entries do
    if (new.entryAt? place).isNone then IO.FS.removeFile (String.ofList place.text)

/-- Writes the records that the console shows to the terminal. -/
def showLog (clock : WallClock) (level : Int) (records : List Record) : IO Unit := do
  for record in records do
    if isShown level record then IO.eprintln (String.ofList (lineNow clock record))

/-- Writes records to the log file, and those that the console shows to the terminal as well. -/
def writeLog (settings : Settings) (level : Int) (records : List Record) : IO Unit := do
  let clock ← readClock
  showLog clock level records
  IO.FS.withFile (String.ofList (Program.logFile settings).text) .append fun file => do
    for record in records do
      file.putStrLn (String.ofList (lineNow clock record))

/-- Shows and logs what a part of a conversation has brought. The transcript that is left has
only the session. -/
def deliver (settings : Settings) (level : Int) (t : Transcript) : IO Transcript := do
  writeLog settings level t.log
  IO.print (String.ofList t.shown)
  return ⟨t.session, [], []⟩

/-- Hears the lines of the terminal, each at its own time. -/
partial def hearLines (settings : Settings) (level : Int) (t : Transcript) : IO Conversation := do
  IO.print ">>> "
  (← IO.getStdout).flush
  let line ← (← IO.getStdin).getLine
  if line.isEmpty then return ⟨.ok (), ← deliver settings level (Ending.exhausted.close t)⟩
  match hear (← readClock) t line.toList with
  | .goesOn t => hearLines settings level (← deliver settings level t)
  | .ended c => return { c with transcript := ← deliver settings level c.transcript }

/-- The exit code for a result. The cause of a failure is shown. -/
def exitCode : Except Fault Unit → IO UInt32
  | .ok _ => return 0
  | .error fault => do
    IO.eprintln (String.ofList fault.message)
    return 1

/-- A run of the program with given settings. The start writes its first record to the log file
itself. -/
def run (host : Host) (settings : Settings) : IO UInt32 := do
  let clock ← readClock
  let tree ← readTree settings
  let started := Program.start host settings clock tree
  writeTree tree started.tree
  showLog clock started.level (started.log.take 1)
  if 1 < started.log.length then writeLog settings started.level (started.log.drop 1)
  match started.result with
  | .error fault => exitCode (.error fault)
  | .ok s =>
    let talk ← Program.converseIfEnabled settings (deliver settings started.level)
      (hearLines settings started.level) (← readClock) s
    let (saved, log) := Program.finish host settings talk.transcript.session.presets started.tree
    writeTree started.tree saved
    writeLog settings started.level log
    exitCode talk.result

end Agenda.Machine

def main : IO UInt32 := do
  let host ← Agenda.Machine.readHost
  match Agenda.Settings.ofEnvironment host.accounts (← Agenda.Machine.readEnvironment) with
  | .error fault => Agenda.Machine.exitCode (.error fault)
  | .ok settings => Agenda.Machine.run host settings
