import Agenda.Clock.LocalTime

/-!
Log records, and which of them are shown on the console.
-/

namespace Agenda.Log

open Clock

/-- A message of a named source with a level of importance. -/
structure Record where
  source : Text
  level : Int
  message : Text
  deriving DecidableEq, Repr

/-- The levels that have names. -/
def debug : Int := 10
def info : Int := 20
def warning : Int := 30
def error : Int := 40
def critical : Int := 50

def levelName (level : Int) : Text :=
  if level = 0 then "NOTSET".toList
  else if level = debug then "DEBUG".toList
  else if level = info then "INFO".toList
  else if level = warning then "WARNING".toList
  else if level = error then "ERROR".toList
  else if level = critical then "CRITICAL".toList
  else "Level ".toList ++ Text.ofInt level

inductive Source where
  | program
  | startup
  | console
  | commands
  | presets
  deriving DecidableEq, Repr

def Source.name : Source → Text
  | program => "smartodo.cli.main".toList
  | startup => "smartodo.cli.bootstrap".toList
  | console => "smartodo.connectors.console_connector".toList
  | commands => "smartodo.cli.commands".toList
  | presets => "smartodo.core.presets".toList

def Source.record (source : Source) (level : Int) (message : Text) : Record :=
  ⟨source.name, level, message⟩

/-- The least level at which the console shows records of a source. All records of the program
are shown, except for the details of dates and filters; others only if they are errors. -/
def consoleLevel? (source : Text) : Option Int :=
  if "smartodo.".toList.isPrefixOf source then
    if "smartodo.dates.".toList.isPrefixOf source ||
        "smartodo.tasks.task_filters".toList.isPrefixOf source then some info
    else none
  else some error

/-- The console does not leave out records of the source at the level. -/
def passesConsole (source : Text) (level : Int) : Bool :=
  match consoleLevel? source with
  | some least => decide (least ≤ level)
  | none => true

/-- The console shows the record if its own level is the given one. -/
def isShown (threshold : Int) (r : Record) : Bool :=
  decide (threshold ≤ r.level) && passesConsole r.source r.level

/-- The record without its time. -/
def Record.text (r : Record) : Text :=
  levelName r.level ++ ' ' :: r.source ++ ':' :: ' ' :: r.message

end Agenda.Log
