import Agenda.Console.Session
import Agenda.Preset.Store
import Agenda.Settings

/-!
The start and the end of a session: folders are made and saved filters read before it, and saved
filters are written after it.
-/

namespace Agenda.Startup

open Files Log Console

/-- What a run finds on its machine besides its files, its settings and the clock: the homes of the
accounts, the levels in which JSON may be nested, and the disk. -/
structure Host where
  accounts : Path.Homes
  nesting : Nat
  disk : Disk

/-- A session that has been started, with the tree and the records of the start. -/
structure Opened where
  result : Except Fault Session
  tree : Tree
  log : List Record

/-- Starts a session without tasks on the saved filters of a file. -/
def openSession (host : Host) (tree : Tree) (dataFolder presetsFile : Path) : Opened :=
  match tree.makeFolders host.disk dataFolder with
  | (.error fault, tree) => ⟨.error fault, tree, []⟩
  | (.ok _, tree) =>
    match tree.makeFolders host.disk presetsFile.parent with
    | (.error fault, tree) => ⟨.error fault, tree, []⟩
    | (.ok _, tree) =>
      let loaded := Presets.load host.nesting tree presetsFile
      ⟨loaded.result.map fun presets => ⟨presets, [], .empty⟩, tree, loaded.log⟩

/-- Writes the saved filters at the end of a session. A failure is noted and has no other
effect. -/
def savePresets (host : Host) (presets : Presets) (tree : Tree) (path : Path) :
    Tree × List Record :=
  match presets.save host.disk tree path with
  | (.ok _, tree) => (tree, [presets.savedRecord path])
  | (.error _, tree) =>
    (tree, [Source.startup.record error ("Failed to save filter presets to ".toList ++ path.text)])

end Agenda.Startup
