import Agenda.Proofs.Console.Line
import Mathlib

/-!
What the lines of a console leave alone. Each part of a session is changed by the commands that are
for it and by no others, whether they succeed or fail. So over a whole session no task is lost or
doubled, and nothing of a task but its status ever changes.
-/

namespace Agenda

/-- A task with its status set back: what is left to tell tasks apart is all their other fields. -/
def Task.reopened (task : Task) : Task := { task with status := .pending }

namespace Console

open Clock Text

/-- What a line can do to the tasks: nothing, a pending task at the end, the status of one task
flipped, or another order. Each is up to one command. -/
inductive Moves (line : Text) (tasks : List Task) : List Task → Prop
  | stays : Moves line tasks tasks
  | adds {args : List Text} (h : Calls line .add args) {task : Task}
      (hpending : task.status = .pending) : Moves line tasks (tasks ++ [task])
  | flips {args : List Text} (h : Calls line .toggle args) {place : Nat}
      (hplace : place < tasks.length) :
      Moves line tasks (tasks.modify place fun task => { task with status := task.status.flip })
  | sorts {args : List Text} (h : Calls line .sort args) {sorted : List Task}
      (hperm : sorted.Perm tasks) : Moves line tasks sorted

/-- The line is one that saves or removes a filter. -/
def EditsPresets (line : Text) : Prop :=
  ∃ sub rest, Calls line .presets (sub :: rest) ∧ lower sub ∈ Session.editWords

/-- The line is one that brings another filter into use: a listing with arguments, the command that
takes the filter out of use, or the one that brings a saved filter into use. -/
def SetsFilter (line : Text) : Prop :=
  (∃ args, Calls line .list args ∧ args ≠ []) ∨ (∃ args, Calls line .clear args) ∨
    ∃ sub rest, Calls line .presets (sub :: rest) ∧ lower sub = "use".toList

/-- Between two sessions a line has changed only what its command is for. -/
structure Frame (line : Text) (s next : Session) : Prop where
  tasks : Moves line s.tasks next.tasks
  presets : next.presets ≠ s.presets → EditsPresets line
  active : next.active ≠ s.active → SetsFilter line

namespace Session

private theorem setsFilter_of_chosen? {s : Session} {line : Text} {args : List Text}
    {command : Command} {f : Filter} (hcalls : Calls line command args)
    (h : s.chosen? args command = some f) : SetsFilter line := by
  cases command with
  | list =>
      refine Or.inl ⟨args, hcalls, ?_⟩
      rintro rfl
      cases h
  | clear => exact Or.inr (Or.inl ⟨args, hcalls⟩)
  | presets =>
      match args, h with
      | sub :: name :: rest, h =>
          have huse : lower sub = "use".toList := by
            by_contra hne
            rw [chosen?, if_neg hne] at h
            cases h
          exact Or.inr (Or.inr ⟨sub, name :: rest, hcalls, huse⟩)
  | _ => cases h

private theorem Step.frame {s : Session} {clock : WallClock} {line : Text} {args : List Text}
    {command : Command} {turn : Turn} (h : Step s clock args command turn)
    (hcalls : Calls line command args) : Frame line s turn.session := by
  have hpresets : s.presets ≠ s.presets → EditsPresets line := absurd rfl
  have hactive : s.active ≠ s.active → SetsFilter line := absurd rfl
  cases h with
  | answers => exact ⟨.stays, hpresets, hactive⟩
  | adds h => exact ⟨.adds hcalls ((newTask?_fields h).1), hpresets, hactive⟩
  | flips hplace => exact ⟨.flips hcalls hplace, hpresets, hactive⟩
  | sorts hperm => exact ⟨.sorts hcalls hperm, hpresets, hactive⟩
  | chooses hchosen =>
      exact ⟨.stays, hpresets, fun _ => setsFilter_of_chosen? hcalls hchosen⟩
  | edits hargs hsub => exact ⟨.stays, fun _ => ⟨_, _, hargs ▸ hcalls, hsub⟩, hactive⟩

theorem handle_frame (s : Session) (clock : WallClock) (line : Text) :
    Frame line s (s.handle clock line).session := by
  rcases s.handle_cases clock line with ⟨_, reply, hquiet⟩ | ⟨command, args, hcalls, hturn⟩
  · rw [hquiet]
    exact ⟨.stays, absurd rfl, absurd rfl⟩
  · rw [hturn, Turn.handled_session]
    exact (run_step ..).frame hcalls

/-- The task that a line adds at its time, if it adds one. -/
def addedBy (line : WallClock × Text) : Option Task :=
  match commands.call (commandLine (trim line.2)) with
  | .known .add args => newTask? line.1 args
  | _ => none

private theorem addedBy_of_add {clock : WallClock} {line : Text} {args : List Text}
    (h : Calls line .add args) : addedBy (clock, line) = newTask? clock args := by
  unfold addedBy
  rw [(call_commandLine_iff h.ne_nil _ _).mpr h]

private theorem addedBy_of_not_add {clock : WallClock} {line : Text}
    (h : ∀ args, ¬ Calls line .add args) : addedBy (clock, line) = none := by
  unfold addedBy
  by_cases hblank : trim line = []
  · rw [hblank]
    rfl
  · split
    · next args hcall => exact absurd ((call_commandLine_iff hblank _ _).mp hcall) (h args)
    · rfl

private theorem addedBy_of_calls {clock : WallClock} {line : Text} {args : List Text}
    {command : Command} (h : Calls line command args) (hne : command ≠ .add) :
    addedBy (clock, line) = none :=
  addedBy_of_not_add fun _ h' => hne (h.unique h').1

private theorem map_reopened_modify_flip (tasks : List Task) (place : Nat) :
    (tasks.modify place fun task => { task with status := task.status.flip }).map Task.reopened =
      tasks.map Task.reopened := by
  induction tasks generalizing place with
  | nil => simp
  | cons task tasks ih =>
      cases place with
      | zero => simp [Task.reopened]
      | succ place => simp [ih]

private theorem Step.tasks_perm {s : Session} {clock : WallClock} {line : Text}
    {args : List Text} {command : Command} {turn : Turn} (h : Step s clock args command turn)
    (hcalls : Calls line command args) :
    (turn.session.tasks.map Task.reopened).Perm
      ((s.tasks ++ (addedBy (clock, line)).toList).map Task.reopened) := by
  cases h with
  | answers reply hadd =>
      have hadded : addedBy (clock, line) = none := by
        by_cases hcommand : command = .add
        · subst hcommand
          exact (addedBy_of_add hcalls).trans (hadd rfl)
        · exact addedBy_of_calls hcalls hcommand
      simp [hadded, answer]
  | adds htask =>
      simp [addedBy_of_add hcalls, htask]
  | flips =>
      simp [addedBy_of_calls hcalls nofun, flipAt, map_reopened_modify_flip]
  | sorts hperm =>
      simpa [addedBy_of_calls hcalls nofun] using hperm.map Task.reopened
  | chooses hchosen =>
      have hne : command ≠ .add := by
        rintro rfl
        cases hchosen
      simp [addedBy_of_calls hcalls hne]
  | edits =>
      simp [addedBy_of_calls hcalls nofun]

private theorem handle_tasks_perm (s : Session) (line : WallClock × Text) :
    ((s.handle line.1 line.2).session.tasks.map Task.reopened).Perm
      ((s.tasks ++ (addedBy line).toList).map Task.reopened) := by
  rcases s.handle_cases line.1 line.2 with
    ⟨hnone, _, hquiet⟩ | ⟨_, _, hcalls, hturn⟩
  · have hadded : addedBy line = none := addedBy_of_not_add fun args => hnone .add args
    simp [hquiet, hadded]
  · rw [hturn, Turn.handled_session]
    exact (run_step ..).tasks_perm hcalls

private theorem play_tasks_perm (s : Session) (lines : List (WallClock × Text)) :
    ((s.play lines).tasks.map Task.reopened).Perm
      ((s.tasks ++ lines.filterMap addedBy).map Task.reopened) := by
  induction lines generalizing s with
  | nil => simp [play]
  | cons line lines ih =>
      have hstep := handle_tasks_perm s line
      have hadded : (line :: lines).filterMap addedBy =
          (addedBy line).toList ++ lines.filterMap addedBy := by
        cases h : addedBy line <;> simp [h]
      rw [hadded, ← List.append_assoc, List.map_append]
      refine (ih (s.handle line.1 line.2).session).trans ?_
      rw [List.map_append]
      exact hstep.append_right _

/-- Every line keeps the frame of its session, whatever comes of it. So over a session of any length
the tasks are, up to order and status, the ones it began with and the ones its lines added. -/
theorem play_keeps_frame (s : Session) :
    (∀ clock line, Frame line s (s.handle clock line).session) ∧
      ∀ lines, ((s.play lines).tasks.map Task.reopened).Perm
        ((s.tasks ++ lines.filterMap addedBy).map Task.reopened) :=
  ⟨handle_frame s, play_tasks_perm s⟩

end Session

end Console

end Agenda
