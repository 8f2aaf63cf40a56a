import Agenda.Proofs.Console.Line
import Agenda.Proofs.DueDate.Epoch
import Mathlib

/-!
The second 0 stands for no date, and it is a second like any other. What names the start of 1970 is
understood as a due date, and the task that is added with it has none.
-/

namespace Agenda.Console

open Clock

namespace Session

variable {clock : WallClock} {args : List Text} {task : Task}

/-- A line that adds tasks adds the task of its arguments, if they make one. -/
theorem handle_adds {line : Text} (hcalls : Calls line .add args)
    (htask : newTask? clock args = some task) (s : Session) :
    (s.handle clock line).session.tasks = s.tasks ++ [task] := by
  rw [handle_of_calls hcalls, Turn.handled_session]
  have hstep := s.run_step clock (some (stamped clock)) args .add
  generalize s.run clock (some (stamped clock)) args .add = turn at hstep ⊢
  cases hstep with
  | answers reply hadd =>
      rw [hadd rfl] at htask
      cases htask
  | adds h =>
      cases h.symm.trans htask
      rfl
  | chooses hchosen => cases hchosen

/-- The due second of a task that was made with a due date is the second of that. -/
theorem due_of_newTask? (htask : newTask? clock args = some task)
    (hphrase : (splitDue args).2 ≠ []) :
    ∃ due, task.due = some due ∧
      DueDate.resolve clock .present (some (splitDue args).2) = .ok (some due) := by
  unfold newTask? at htask
  dsimp only at htask
  rw [dueSecond, if_neg hphrase] at htask
  split_ifs at htask
  split at htask
  · next due _ hdue _ =>
      cases htask
      exact ⟨due, rfl, hdue⟩
  · cases htask

/-- Exactly what names the second 0. From any local day of the years 2 to 9998, a text comes to it
as a phrase if it counts hours, minutes or days up to the start of 1970 or is the time of day that
the clock shows then and that comes next; as a time of day in the last case; and as a due date if it
is an explicit date of the start of 1970 or, failing that, such a phrase. In these cases, and in no
others, a line that adds a task with a due date that is understood adds one without a due date. -/
theorem resolve_epoch_iff {anchor : Anchor} {now : LocalTime}
    (hnow : clock.resolve anchor = .ok now) (hyear : 2 ≤ now.date.year ∧ now.date.year ≤ 9998) :
    (∀ text,
      (Phrase.resolve clock anchor (some text) = .ok (some 0) ↔
        Phrase.NamesEpoch clock.zone now text) ∧
      (Phrase.resolveTime clock anchor (some text) = .ok (some 0) ↔
        Phrase.NamesEpochAsTime clock.zone now text) ∧
      (DueDate.resolve clock anchor (some text) = .ok (some 0) ↔
        DueDate.NamesEpoch clock.zone now text)) ∧
    (anchor = .present → ∀ (s : Session) (line : Text) (args : List Text) (task : Task),
      Calls line .add args → newTask? clock args = some task → (splitDue args).2 ≠ [] →
        (s.handle clock line).session.tasks = s.tasks ++ [task] ∧
          (task.due = some 0 ↔ DueDate.NamesEpoch clock.zone now (splitDue args).2)) := by
  constructor
  · intro text
    exact ⟨DueDate.phrase_epoch_iff hnow hyear text, DueDate.timePhrase_epoch_iff hnow hyear text,
      DueDate.dueDate_epoch_iff hnow hyear text⟩
  · rintro rfl s line args task hcalls htask hphrase
    obtain ⟨due, hdue, hresolve⟩ := due_of_newTask? htask hphrase
    refine ⟨handle_adds hcalls htask s, ?_⟩
    rw [← DueDate.dueDate_epoch_iff hnow hyear, hdue, hresolve, Except.ok.injEq]

/-- From half past ten in the evening before 1970, universal time, an hour and a half lead to the
second 0, and so does "midnight" in figures. -/
theorem resolve_epoch_evening :
    let clock : WallClock := ⟨.utc, .ofInt (-5400)⟩
    let now : LocalTime := .on ⟨1969, 12, 31, by decide⟩ ⟨22, 30, 0, by decide⟩
    clock.resolve .present = .ok now ∧ Phrase.NamesEpoch .utc now "in 90 min".toList ∧
      DueDate.NamesEpoch .utc now "12am".toList ∧ ¬ DueDate.NamesEpoch .utc now "1am".toList := by
  intro clock now
  have hnow : clock.resolve .present = .ok now := by decide +kernel
  have hiff := (resolve_epoch_iff hnow (by decide)).1
  refine ⟨hnow, (hiff _).1.mp (by decide +kernel), (hiff _).2.2.mp (by decide +kernel), ?_⟩
  intro hnames
  have hzero := (hiff _).2.2.mpr hnames
  revert hzero
  decide +kernel

/-- An explicit date of the start of 1970 comes to the second 0 at any time, and the task that is
added with it has no due date. -/
theorem resolve_epoch_explicit :
    let clock : WallClock := ⟨.utc, .ofInt 1792405800⟩
    DueDate.resolve clock .present (some "1970-01-01T00:00:00Z".toList) = .ok (some 0) ∧
      (Session.empty.handle clock "/add x @ 1970-01-01T00:00:00Z".toList).session.tasks.map
        Task.due = [some 0] := by
  decide +kernel

end Session

end Agenda.Console
