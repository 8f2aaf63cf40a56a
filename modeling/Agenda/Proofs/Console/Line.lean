import Agenda.Proofs.Console.Step
import Agenda.Proofs.Text.Trim
import Mathlib

/-!
What one line of the console does. A line calls a command by one of its names, or it is a text to
list tasks by, or it calls nothing and leaves the session as it is. Sessions of any length are lines
one after another.
-/

namespace Agenda.Console

open Clock Log Text

namespace Command

/-- The names of a command, as they are written in lowercase. -/
def names : Command → List Text
  | help => ["help", "h", "?"].map String.toList
  | due => ["due".toList]
  | time => ["at".toList]
  | window => ["range".toList]
  | add => ["add".toList]
  | toggle => ["done".toList]
  | list => ["list", "ls"].map String.toList
  | clear => ["clear".toList]
  | sort => ["sort".toList]
  | presets => ["preset".toList]

end Command

/-- The line calls a command with arguments: by one of its names in any case after a slash, or,
without a slash, as a listing by its words. -/
inductive Calls (line : Text) : Command → List Text → Prop
  | slashed {command : Command} {rest name : Text} {args : List Text}
      (hline : trim line = '/' :: rest) (hwords : words rest = name :: args)
      (hname : lower name ∈ command.names) : Calls line command args
  | plain (hne : trim line ≠ []) (hslash : (trim line).head? ≠ some '/') :
      Calls line .list (words (trim line))

private theorem entry?_commands (name : Text) (command : Command) :
    entry? name commands.handlers = some command ↔ name ∈ command.names := by
  constructor
  · intro h
    have hnames : ∀ entry ∈ commands.handlers, entry.1 ∈ entry.2.names := by decide
    obtain ⟨entry, hfind, rfl⟩ := Option.map_eq_some_iff.mp h
    have hname : entry.1 = name := by simpa using List.find?_some hfind
    exact hname ▸ hnames entry (List.mem_of_find?_eq_some hfind)
  · revert name
    cases command <;> decide

private theorem call_slash (rest : Text) (command : Command) (args : List Text) :
    commands.call ('/' :: rest) = .known command args ↔
      ∃ name, words rest = name :: args ∧ lower name ∈ command.names := by
  rw [Table.call]
  cases hwords : words rest with
  | nil => simp
  | cons name others =>
      dsimp only
      cases hentry : entry? (lower name) commands.handlers with
      | none =>
          simp only [reduceCtorEq, false_iff, not_exists, not_and]
          intro other hother hname
          obtain ⟨rfl, _⟩ := List.cons.inj hother
          rw [(entry?_commands _ _).mpr hname] at hentry
          cases hentry
      | some known =>
          constructor
          · intro h
            cases h
            exact ⟨name, rfl, (entry?_commands _ _).mp hentry⟩
          · rintro ⟨other, hother, hname⟩
            obtain ⟨rfl, rfl⟩ := List.cons.inj hother
            rw [(entry?_commands _ _).mpr hname] at hentry
            cases hentry
            rfl

/-- The command line of a console line calls exactly what the line calls. -/
theorem call_commandLine_iff {line : Text} (hne : trim line ≠ []) (command : Command)
    (args : List Text) :
    commands.call (commandLine (trim line)) = .known command args ↔ Calls line command args := by
  unfold commandLine
  split_ifs with hslash
  · obtain ⟨rest, hline⟩ : ∃ rest, trim line = '/' :: rest := List.head?_eq_some_iff.mp hslash
    rw [hline, call_slash]
    constructor
    · rintro ⟨name, hwords, hname⟩
      exact .slashed hline hwords hname
    · intro h
      cases h with
      | slashed hline' hwords hname =>
          obtain ⟨-, rfl⟩ := List.cons.inj (hline.symm.trans hline')
          exact ⟨_, hwords, hname⟩
      | plain _ hno => exact absurd hslash hno
  · have hwords : words ("list ".toList ++ trim line) = "list".toList :: words (trim line) := rfl
    change commands.call ('/' :: ("list ".toList ++ trim line)) = _ ↔ _
    rw [call_slash, hwords]
    constructor
    · rintro ⟨name, hname, hmem⟩
      obtain ⟨rfl, rfl⟩ := List.cons.inj hname
      rw [← entry?_commands] at hmem
      have hlist : entry? (lower "list".toList) commands.handlers = some .list := by decide
      obtain rfl := Option.some.inj (hmem.symm.trans hlist)
      exact .plain hne hslash
    · intro h
      cases h with
      | slashed hline => exact absurd (by rw [hline]; rfl) hslash
      | plain => exact ⟨_, rfl, by decide⟩

theorem Calls.ne_nil {line : Text} {command : Command} {args : List Text}
    (h : Calls line command args) : trim line ≠ [] := by
  cases h with
  | slashed hline => simp [hline]
  | plain hne => exact hne

/-- A line calls one command at most. -/
theorem Calls.unique {line : Text} {command other : Command} {args others : List Text}
    (h : Calls line command args) (h' : Calls line other others) :
    command = other ∧ args = others := by
  have hne := h.ne_nil
  rw [← call_commandLine_iff hne] at h h'
  cases h.symm.trans h'
  exact ⟨rfl, rfl⟩

/-- What the console makes of a command: its reply, or the reply of a failure, which is recorded. -/
def Turn.handled (turn : Turn) : Handled :=
  match turn.reply with
  | .ok reply => ⟨some reply, turn.session, turn.shown, turn.log⟩
  | .error _ => ⟨some crashReply, turn.session, turn.shown, turn.log ++ [crashRecord]⟩

@[simp] theorem Turn.handled_session (turn : Turn) : turn.handled.session = turn.session := by
  unfold Turn.handled
  split <;> rfl

namespace Session

/-- A line that calls nothing leaves the session alone, and one that calls a command leaves what the
command leaves. -/
theorem handle_cases (s : Session) (clock : WallClock) (line : Text) :
    ((∀ command args, ¬ Calls line command args) ∧
      ∃ reply, s.handle clock line = ⟨reply, s, [], []⟩) ∨
    ∃ command args, Calls line command args ∧
      s.handle clock line = (s.run clock (some (stamped clock)) args command).handled := by
  unfold handle
  dsimp only
  split_ifs with hblank
  · refine Or.inl ⟨?_, _, rfl⟩
    intro command args h
    exact h.ne_nil hblank
  · unfold command?
    cases hcall : commands.call (commandLine (trim line)) with
    | known command args =>
        exact Or.inr ⟨command, args, (call_commandLine_iff hblank _ _).mp hcall, rfl⟩
    | _ =>
        refine Or.inl ⟨?_, _, rfl⟩
        intro command args h
        rw [(call_commandLine_iff hblank _ _).mpr h] at hcall
        cases hcall

theorem handle_of_calls {s : Session} {clock : WallClock} {line : Text} {command : Command}
    {args : List Text} (h : Calls line command args) :
    s.handle clock line = (s.run clock (some (stamped clock)) args command).handled := by
  rcases s.handle_cases clock line with ⟨hnone, _⟩ | ⟨_, _, hcalls, hturn⟩
  · exact absurd h (hnone command args)
  · obtain ⟨rfl, rfl⟩ := h.unique hcalls
    exact hturn

/-- The session after some lines, each at its own time. -/
def play (s : Session) (lines : List (WallClock × Text)) : Session :=
  lines.foldl (fun s line => (s.handle line.1 line.2).session) s

end Session

end Agenda.Console
