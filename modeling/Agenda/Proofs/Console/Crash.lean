import Agenda.Proofs.Console.Line
import Agenda.Proofs.DueDate.Shown
import Agenda.Proofs.Fault
import Mathlib

/-!
What a crash of a command leaves behind. The tasks are shown after a new task is added and after
another filter is brought into use, and showing them can fail. The session is as before exactly
where neither had been done.
-/

namespace Agenda.Console

open Clock DueDate Text

/-- The local clock shows the due second of the task, and it shows what time it is. A task without a
due date needs neither. -/
def DueShown (clock : WallClock) (task : Task) : Prop :=
  ∀ due, task.due.bind instant? = some due →
    (∃ time, clock.zone.toLocal due = .ok time) ∧ ∃ now, clock.resolve .present = .ok now

private theorem tagsText_ok_iff (tags : List (Option Text)) :
    (∃ text, tagsText tags = .ok text) ↔ ∀ tag ∈ tags, tag.isSome = true := by
  have hpresent : tags.findIdx? Option.isNone = none ↔ ∀ tag ∈ tags, tag.isSome = true := by
    simp [List.findIdx?_eq_none_iff]
  rw [← hpresent, tagsText]
  cases tags.findIdx? Option.isNone with
  | none => exact iff_of_true ⟨_, rfl⟩ rfl
  | some i => exact iff_of_false nofun nofun

/-- A task has a line exactly if none of its tags is missing and its due second is shown. -/
theorem taskText_ok_iff (clock : WallClock) (number : Nat) (task : Task) :
    (∃ text, taskText clock number task = .ok text) ↔
      (∀ tag ∈ task.tags, tag.isSome = true) ∧ DueShown clock task := by
  rw [DueShown, ← wording_ok_iff, ← tagsText_ok_iff]
  constructor
  · rintro ⟨text, htext⟩
    obtain ⟨tagged, htagged, hrest⟩ := ok_of_bind htext
    obtain ⟨words, hwords, _⟩ := ok_of_bind hrest
    exact ⟨⟨tagged, htagged⟩, words, hwords⟩
  · rintro ⟨⟨tagged, htagged⟩, words, hwords⟩
    exact ⟨_, by rw [taskText, htagged, hwords]; rfl⟩

namespace Session

/-- The command that the line calls fails. -/
def Crashes (s : Session) (clock : WallClock) (line : Text) : Prop :=
  ∃ command args fault, Calls line command args ∧
    (s.run clock (some (stamped clock)) args command).reply = .error fault

variable {s : Session} {clock : WallClock} {args : List Text} {turn : Turn}

private theorem Step.failed {command : Command} {fault : Fault}
    (h : Step s clock args command turn) (hreply : turn.reply = .error fault) :
    turn.session.presets = s.presets ∧
      (turn.session = s ↔ (command = .add → newTask? clock args = none) ∧
        ∀ f, s.chosen? args command = some f → f = s.active) := by
  -- a command that flips, sorts or edits answers after that and cannot fail any more
  cases h with
  | answers reply hadd hchosen =>
      refine ⟨rfl, iff_of_true rfl ⟨hadd, ?_⟩⟩
      simp [hchosen]
  | adds htask =>
      refine ⟨rfl, iff_of_false ?_ ?_⟩
      · intro hsame
        have htasks := congrArg Session.tasks hsame
        simp at htasks
      · rintro ⟨hnone, _⟩
        rw [hnone rfl] at htask
        cases htask
  | chooses hchosen =>
      have hadd : command ≠ .add := by
        rintro rfl
        cases hchosen
      refine ⟨rfl, ?_⟩
      constructor
      · intro hsame
        refine ⟨fun h => absurd h hadd, ?_⟩
        intro g hg
        obtain rfl := Option.some.inj (hchosen.symm.trans hg)
        exact congrArg Session.active hsame
      · rintro ⟨_, hactive⟩
        rw [hactive _ hchosen]
  | flips => cases hreply
  | sorts => cases hreply
  | edits => cases hreply

private theorem Step.added (h : Step s clock args .add turn) :
    ((∃ task text, newTask? clock args = some task ∧
        turn.session = { s with tasks := s.tasks ++ [task] } ∧
        turn.reply = .ok ("Added: ".toList ++ text)) ∨ turn.session.tasks = s.tasks) ↔
      ∀ task, newTask? clock args = some task → DueShown clock task := by
  cases h with
  | answers reply hadd => simp [answer, hadd rfl]
  | @adds task htask name due =>
      obtain ⟨_, tags, htags⟩ := newTask?_fields htask
      rw [or_iff_left (by simp), htask]
      simp only [Option.some.injEq, forall_eq']
      have hpresent : ∀ tag ∈ task.tags, tag.isSome = true := by simp [htags]
      have hline := taskText_ok_iff clock (s.tasks ++ [task]).length task
      rw [and_iff_right hpresent] at hline
      rw [← hline]
      constructor
      · rintro ⟨_, _, rfl, _, hreply⟩
        obtain ⟨text, htext, _⟩ := ok_of_bind hreply
        exact ⟨text, htext⟩
      · rintro ⟨text, htext⟩
        exact ⟨task, text, rfl, rfl, by rw [htext]; rfl⟩
  | chooses hchosen => cases hchosen

private theorem handled_reply_added (turn : Turn) (text : Text) :
    turn.handled.reply = some ("Added: ".toList ++ text) ↔
      turn.reply = .ok ("Added: ".toList ++ text) := by
  unfold Turn.handled
  split
  · next reply hreply => simp [hreply]
  · next fault hreply =>
      rw [hreply]
      refine iff_of_false ?_ nofun
      change some crashReply ≠ some _
      intro h
      injection h with h
      have hfirst : some 'I' = some 'A' := congrArg List.head? h
      cases hfirst

/-- A line whose command crashes is answered and keeps the saved filters. It leaves the session as
it was exactly if it makes no task and brings no other filter into use. A line that adds tasks adds
its task and says so, or leaves the tasks alone, exactly if the due date that it gives is one that
can be shown. -/
theorem handle_crash_iff (s : Session) (clock : WallClock) (line : Text) :
    (s.Crashes clock line →
      (s.handle clock line).reply = some crashReply ∧
      (s.handle clock line).session.presets = s.presets ∧
      ((s.handle clock line).session = s ↔
        ∀ command args, Calls line command args →
          (command = .add → newTask? clock args = none) ∧
            ∀ f, s.chosen? args command = some f → f = s.active)) ∧
    ∀ args, Calls line .add args →
      (((∃ task text, newTask? clock args = some task ∧
          (s.handle clock line).session = { s with tasks := s.tasks ++ [task] } ∧
          (s.handle clock line).reply = some ("Added: ".toList ++ text)) ∨
        (s.handle clock line).session.tasks = s.tasks) ↔
        ∀ task, newTask? clock args = some task → DueShown clock task) := by
  constructor
  · rintro ⟨command, args, fault, hcalls, hreply⟩
    obtain ⟨hpresets, hsession⟩ := (run_step ..).failed hreply
    rw [handle_of_calls hcalls, Turn.handled_session]
    refine ⟨by rw [Turn.handled, hreply], hpresets, hsession.trans ?_⟩
    constructor
    · intro h other others hother
      obtain ⟨rfl, rfl⟩ := hcalls.unique hother
      exact h
    · intro h
      exact h command args hcalls
  · intro args hcalls
    rw [handle_of_calls hcalls, Turn.handled_session]
    simp only [handled_reply_added]
    exact (run_step ..).added

/-- A date that cannot be shown crashes the command that explains it. The tasks, the saved filters
and the filter in use stay. -/
theorem handle_crash_due :
    let clock : WallClock := ⟨.utc, .ofInt 1792405800⟩
    let work : Filter := ⟨[.named .status "pending".toList, .text "report".toList]⟩
    let s : Session := ⟨.ofEntries [("work".toList, work)],
      ["report".toList, "tea".toList].map Task.ofName, work⟩
    let line := "/due 0001-01-01T00:00:00Z".toList
    s.Crashes clock line ∧ (s.handle clock line).session = s := by
  intro clock work s line
  have hline : trim line = '/' :: "due 0001-01-01T00:00:00Z".toList := by decide +kernel
  have hwords : words "due 0001-01-01T00:00:00Z".toList =
      ["due".toList, "0001-01-01T00:00:00Z".toList] := by
    decide +kernel
  have hcalls : Calls line .due ["0001-01-01T00:00:00Z".toList] :=
    .slashed hline hwords (by decide +kernel)
  have hcrash : s.Crashes clock line := by
    refine ⟨_, _, .yearOutside 0, hcalls, ?_⟩
    decide +kernel
  refine ⟨hcrash, ((handle_crash_iff _ _ _).1 hcrash).2.2.mpr ?_⟩
  intro command args hother
  obtain ⟨rfl, rfl⟩ := hcalls.unique hother
  exact ⟨nofun, nofun⟩

/-- The task stays in the list although the command has crashed on showing it. -/
theorem handle_crash_add :
    let clock : WallClock := ⟨.utc, .ofInt 1792405800⟩
    let handled := Session.empty.handle clock "/add x @ 0001-01-01T00:00:00Z".toList
    handled.reply = some crashReply ∧ handled.session ≠ .empty ∧
      handled.session.tasks.map Task.name = [some "x".toList] := by
  decide +kernel

end Session

end Agenda.Console
