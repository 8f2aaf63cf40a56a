import Agenda.Program
import Agenda.Proofs.Console.Loop
import Agenda.Proofs.Console.Presets
import Mathlib

/-!
Runs of the program. A run that has come to a session plays its lines and then saves the filters it is
left with, whatever became of the console. The next run starts with these filters, unless one of them
cannot be read from its own token.
-/

namespace Agenda

open Clock Console Files

namespace Startup

variable {host : Host} {tree : Tree}

/-- A session starts without tasks, on the saved filters of the tree that the start leaves. -/
theorem openSession_ok {dataFolder presetsFile : Path} {s : Session}
    (h : (openSession host tree dataFolder presetsFile).result = .ok s) :
    ∃ presets, s = ⟨presets, [], .empty⟩ ∧
      (Presets.load host.nesting (openSession host tree dataFolder presetsFile).tree
        presetsFile).result = .ok presets := by
  unfold openSession at h ⊢
  split at h
  · cases h
  · dsimp only at h
    split at h
    · cases h
    · obtain ⟨presets, hload, rfl⟩ := ok_of_map h
      exact ⟨presets, rfl, hload⟩

/-- Whether a session starts or not, a path that leads to a file still does. -/
theorem find_openSession {p : Path} {content : ByteArray}
    (h : tree.find p = .ok (some (.file content))) (dataFolder presetsFile : Path) :
    (openSession host tree dataFolder presetsFile).tree.find p = .ok (some (.file content)) := by
  have hfolder := Tree.find_makeFolders h host.disk dataFolder
  unfold openSession
  generalize tree.makeFolders host.disk dataFolder = made at hfolder ⊢
  obtain ⟨_ | _, made⟩ := made
  · exact hfolder
  · have hparent := Tree.find_makeFolders hfolder host.disk presetsFile.parent
    dsimp only at hparent ⊢
    generalize made.makeFolders host.disk presetsFile.parent = last at hparent ⊢
    obtain ⟨_ | _, last⟩ := last
    · exact hparent
    · exact hparent

theorem savePresets_tree (host : Host) (presets : Presets) (tree : Tree) (path : Path) :
    (savePresets host presets tree path).1 = (presets.save host.disk tree path).2 := by
  unfold savePresets
  generalize presets.save host.disk tree path = outcome
  obtain ⟨_ | _, left⟩ := outcome
  · rfl
  · rfl

end Startup

namespace Program

open Startup

/-- The session that a run leaves behind. The console plays its lines, if it is enabled and its clock
has a time to show. -/
def lastSession (settings : Settings) (clock : WallClock) (lines : List Text) (s : Session) :
    Session :=
  match stamp clock with
  | .ok _ => if settings.consoleEnabled then s.play (heard clock lines) else s
  | .error _ => s

/-- No tree has the log and the saved filters in one place. -/
def IsApart (settings : Settings) : Prop :=
  ∀ (tree : Tree) (place : Path), tree.place (logFile settings) = .ok place →
    tree.place settings.presetsFile ≠ .ok place

/-- Paths that differ and do not lead upwards are never in one place. -/
theorem isApart_of_ne {settings : Settings} (hlog : Tree.upward ∉ (logFile settings).parts)
    (hpresets : Tree.upward ∉ settings.presetsFile.parts)
    (hne : logFile settings ≠ settings.presetsFile) : IsApart settings := by
  intro tree place h h'
  rw [← Tree.place_of_not_upward hlog h, ← Tree.place_of_not_upward hpresets h'] at hne
  exact hne rfl

section

variable {host : Host} {settings : Settings} {clock : WallClock} {tree : Tree} {content : ByteArray}
  (hapart : IsApart settings) (h : tree.find settings.presetsFile = .ok (some (.file content)))

include hapart h

theorem find_prepareLog :
    (prepareLog host settings tree).tree.find settings.presetsFile =
      .ok (some (.file content)) := by
  have hfolder := Tree.find_makeFolders h host.disk settings.logFolder
  unfold prepareLog
  generalize tree.makeFolders host.disk settings.logFolder = made at hfolder ⊢
  obtain ⟨_ | _, made⟩ := made
  · exact hfolder
  · dsimp only at hfolder ⊢
    split
    · exact hfolder
    · have hlog := Tree.find_append hfolder (hapart made) host.disk .empty
      generalize made.append host.disk (logFile settings) .empty = last at hlog ⊢
      obtain ⟨_ | _, last⟩ := last
      · exact hlog
      · exact hlog

/-- What is done before the first line changes no saved filters. -/
theorem find_start :
    (start host settings clock tree).tree.find settings.presetsFile =
      .ok (some (.file content)) := by
  have hprepared : (prepareLog host settings tree).tree.find settings.presetsFile = _ :=
    find_prepareLog hapart h
  unfold start
  dsimp only
  split
  · exact hprepared
  · exact find_openSession (Tree.find_append hprepared (hapart _) host.disk _) _ _

end

variable {host : Host} {settings : Settings} {clock : WallClock} {tree : Tree} {s : Session}

/-- The session of a run starts in that way, whatever has been done for the log before. -/
theorem start_ok (h : (start host settings clock tree).result = .ok s) :
    ∃ presets, s = ⟨presets, [], .empty⟩ ∧
      (Presets.load host.nesting (start host settings clock tree).tree
        settings.presetsFile).result = .ok presets := by
  unfold start at h ⊢
  dsimp only at h ⊢
  split at h
  · cases h
  · exact openSession_ok h

/-- The console fails only if it has no time to show, and leaves the last session in any case. -/
theorem converseIfEnabled_cases (settings : Settings) (clock : WallClock) (ending : Ending)
    (lines : List Text) (s : Session) :
    let talk := Id.run (converseIfEnabled settings pure
      (fun t => pure (converse clock ending t lines)) clock s)
    talk.result = (if settings.consoleEnabled then (stamp clock).map fun _ => () else .ok ()) ∧
      talk.transcript.session = lastSession settings clock lines s := by
  have htalk := runConsole_cases clock ending s lines
  dsimp only
  unfold converseIfEnabled lastSession
  split_ifs
  · cases hstamp : stamp clock with
    | ok time =>
        rw [hstamp] at htalk
        exact htalk
    | error fault =>
        rw [hstamp] at htalk
        exact htalk
  · refine ⟨rfl, ?_⟩
    cases stamp clock with
    | ok time => rfl
    | error fault => rfl

/-- A run that has come to a session fails only for want of a time to show on the console. -/
theorem runWith_result (h : (start host settings clock tree).result = .ok s) (ending : Ending)
    (lines : List Text) :
    (runWith host settings clock tree ending lines).result =
      if settings.consoleEnabled then (stamp clock).map fun _ => () else .ok () := by
  rw [← (converseIfEnabled_cases settings clock ending lines s).1]
  unfold runWith
  dsimp only
  rw [h]

/-- A run that has come to a session saves the filters that it is left with, whatever the console has
led to. -/
theorem runWith_tree (h : (start host settings clock tree).result = .ok s) (ending : Ending)
    (lines : List Text) :
    (runWith host settings clock tree ending lines).tree =
      ((lastSession settings clock lines s).presets.save host.disk
        (start host settings clock tree).tree settings.presetsFile).2 := by
  rw [← (converseIfEnabled_cases settings clock ending lines s).2, ← savePresets_tree]
  unfold runWith
  dsimp only
  rw [h]
  rfl

theorem isBuilt_lastSession (h : (start host settings clock tree).result = .ok s)
    (lines : List Text) : (lastSession settings clock lines s).presets.IsBuilt := by
  obtain ⟨presets, rfl, hload⟩ := start_ok h
  have hbuilt : presets.IsBuilt := Presets.isBuilt_of_load hload
  unfold lastSession
  split
  · split_ifs
    · exact Session.play_isBuilt (s := ⟨presets, [], .empty⟩) hbuilt _
    · exact hbuilt
  · exact hbuilt

/-- If the filters cannot be saved at the end of a run, the files are as they were at its first line,
but for the one beside the saved filters in which saving writes first. -/
theorem runWith_keeps_files (h : (start host settings clock tree).result = .ok s) (ending : Ending)
    (lines : List Text)
    (hsave : ∀ saved, (lastSession settings clock lines s).presets.save host.disk
      (start host settings clock tree).tree settings.presetsFile ≠ (.ok (), saved))
    {place : Path}
    (hplace : ¬ Presets.DraftAt (runWith host settings clock tree ending lines).tree
      settings.presetsFile place) :
    (runWith host settings clock tree ending lines).tree.fileAt? place =
      (start host settings clock tree).tree.fileAt? place := by
  rw [runWith_tree h] at hplace ⊢
  rcases Presets.save_cases (lastSession settings clock lines s).presets host.disk
      (start host settings clock tree).tree settings.presetsFile with
    ⟨fault, left, heq, hfiles | ⟨beside, n, hdraft, hfiles⟩⟩ | ⟨_, saved, _, _, _, heq, _⟩
  · rw [heq]
    exact hfiles place
  · rw [heq] at hplace ⊢
    refine (hfiles place).trans (if_neg ?_)
    rintro rfl
    exact hplace hdraft
  · exact absurd heq (hsave saved)

/-- A run whose filters have been saved hands them on to the next one, on whatever machine and
whenever it starts: that one begins with these filters exactly if each of them is settled. -/
theorem next_start_iff (hapart : IsApart settings)
    (h : (start host settings clock tree).result = .ok s) (ending : Ending) (lines : List Text)
    (hsave : ((lastSession settings clock lines s).presets.save host.disk
      (start host settings clock tree).tree settings.presetsFile).1 = .ok ())
    {later : Host} {laterClock : WallClock} {next : Session}
    (hnext : (start later settings laterClock
      (runWith host settings clock tree ending lines).tree).result = .ok next) :
    next = ⟨(lastSession settings clock lines s).presets, [], .empty⟩ ↔
      ∀ entry ∈ (lastSession settings clock lines s).presets.entries, entry.2.IsSettled := by
  have hbuilt := isBuilt_lastSession h lines
  obtain ⟨presets, rfl, hload⟩ := start_ok hnext
  obtain ⟨content, hcontent, hfind⟩ := Presets.find_of_save hsave
  rw [← runWith_tree h ending lines] at hfind
  have hlater : (Presets.load later.nesting (runWith host settings clock tree ending lines).tree
      settings.presetsFile).result = .ok presets := by
    rw [← hload, Presets.load_of_find _ hfind,
      Presets.load_of_find _ (find_start hapart hfind)]
  rw [runWith_tree h] at hlater
  rw [← hbuilt.load_of_save_iff later.nesting hsave, hlater]
  simp

/-- The filter that a line of the first run has saved is there in the second. -/
example :
    let host : Host := ⟨[], 0, .calm⟩
    let folder := Path.ofText "data".toList
    let settings : Settings :=
      ⟨"agenda".toList, "INFO".toList, true, folder, folder, folder.child "p.json".toList⟩
    let clock : WallClock := ⟨.utc, .ofInt 0⟩
    let lines := ["/preset save x status:done".toList]
    IsApart settings ∧
      (start host settings clock (runWith host settings clock .empty .exhausted lines).tree).result =
        .ok ⟨.ofEntries [("x".toList, ⟨[.named .status "done".toList]⟩)], [], .empty⟩ :=
  ⟨isApart_of_ne (by decide) (by decide) (by decide), by decide +kernel⟩

end Program

end Agenda
