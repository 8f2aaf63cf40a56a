import Agenda.Files.Path
import Agenda.Text.Alphabet
import Agenda.Text.Upper

/-!
Settings, taken from environment variables. Every setting has a default.
-/

namespace Agenda

open Files

structure Settings where
  appName : Text
  logLevel : Text
  consoleEnabled : Bool
  dataFolder : Path
  logFolder : Path
  presetsFile : Path
  deriving DecidableEq, Repr

namespace Settings

abbrev Environment := List (Text × Text)

/-- The value of a variable of the program, of whose name the end is given. -/
def setting? (env : Environment) (name : String) : Option Text :=
  (env.find? fun entry => entry.1 == "SMARTODO_".toList ++ name.toList).map Prod.snd

/-- A text without outer blanks, or the default if that is empty. -/
def trimmedOr (fallback : Text) (raw : Option Text) : Text :=
  match Text.trim (raw.getD fallback) with
  | [] => fallback
  | t => t

def yesWords : List Text := ["1", "true", "yes", "y", "on"].map String.toList

/-- The path of a variable, or the default if it is missing or blank. -/
def pathOr (fallback : Path) (homes : Path.Homes) : Option Text → Except Fault Path
  | none => .ok fallback
  | some raw => if Text.isBlankText raw then .ok fallback else (Path.ofText raw).expandHome homes

/-- The settings of an environment, on a machine with the homes of its accounts. The log goes to
the data folder and the saved filters to a file in it, unless they have paths of their own. -/
def ofEnvironment (accounts : Path.Homes) (env : Environment) : Except Fault Settings := do
  let home := ((env.find? fun entry => entry.1 == "HOME".toList).map Prod.snd).getD []
  let homes := ([], home) :: accounts
  let dataFolder ← pathOr (.ofText ".local/smartodo".toList) homes (setting? env "DATA_DIR")
  let logFolder ← pathOr dataFolder homes (setting? env "LOG_DIR")
  let presetsFile ← pathOr (dataFolder.child "filter_presets.json".toList) homes
    (setting? env "PRESETS_PATH")
  return {
    appName := trimmedOr "smartodo".toList (setting? env "APP_NAME")
    logLevel := Text.upper (trimmedOr "INFO".toList (setting? env "LOG_LEVEL"))
    consoleEnabled := match setting? env "CONSOLE_ENABLED" with
      | none => true
      | some raw => yesWords.contains (Text.lower (Text.trim raw))
    dataFolder := dataFolder
    logFolder := logFolder
    presetsFile := presetsFile }

end Settings

end Agenda
