import Agenda.Console.Loop
import Agenda.Proofs.Console.Line
import Mathlib

/-!
The console from its opening to its end. It handles its lines one after another up to the first that
ends it, and leaves what these make of the session. The one thing that ends it with a failure is a
clock without a time to show, and then it ends before its first line.
-/

namespace Agenda.Console

open Clock

/-- The lines that a console handles, each at the time of its clock. -/
def heard (clock : WallClock) (lines : List Text) : List (WallClock × Text) :=
  (lines.takeWhile fun line => !isExit line).map fun line => (clock, line)

theorem stamped_eq (clock : WallClock) (line : Text) :
    stamped clock line = (stamp clock).map fun time => '[' :: time ++ "] ".toList ++ line := by
  unfold stamped
  cases stamp clock with
  | ok time => rfl
  | error fault => rfl

/-- The console opens exactly if its clock has a time to show. -/
theorem openConsole_result (clock : WallClock) (s : Session) :
    (openConsole clock s).result = (stamp clock).map fun _ => () := by
  unfold openConsole
  rw [stamped_eq]
  cases stamp clock with
  | ok time => rfl
  | error fault => rfl

theorem respond_result {clock : WallClock} {time : Text} (h : stamp clock = .ok time)
    (t : Transcript) (line : Text) : (respond clock t line).result = .ok () := by
  unfold respond
  dsimp only
  split
  · rfl
  · rw [stamped_eq, h]
    rfl

theorem openConsole_session (clock : WallClock) (s : Session) :
    (openConsole clock s).transcript.session = s := by
  unfold openConsole
  dsimp only
  split <;> rfl

theorem respond_session (clock : WallClock) (t : Transcript) (line : Text) :
    (respond clock t line).transcript.session = (t.session.handle clock line).session := by
  unfold respond
  dsimp only
  split
  · rfl
  · split <;> rfl

theorem close_session (ending : Ending) (t : Transcript) :
    (ending.close t).session = t.session := by
  cases ending <;> rfl

/-- A line ends the console and leaves the session, or it is handled and the console goes on. -/
theorem hear_cases {clock : WallClock} {time : Text} (h : stamp clock = .ok time) (t : Transcript)
    (line : Text) :
    (isExit line = true ∧ hear clock t line = .ended ⟨.ok (), leave t⟩) ∨
      (isExit line = false ∧ ∃ next, hear clock t line = .goesOn next ∧
        next.session = (t.session.handle clock line).session) := by
  unfold hear
  split_ifs with hexit
  · exact .inl ⟨hexit, rfl⟩
  · refine .inr ⟨Bool.eq_false_iff.mpr hexit, (respond clock t line).transcript, ?_,
      respond_session clock t line⟩
    dsimp only
    rw [respond_result h]

/-- A conversation leaves the session to which the lines up to the first exit have led. -/
theorem converse_of_stamp {clock : WallClock} {time : Text} (h : stamp clock = .ok time)
    (ending : Ending) (t : Transcript) (lines : List Text) :
    (converse clock ending t lines).result = .ok () ∧
      (converse clock ending t lines).transcript.session = t.session.play (heard clock lines) := by
  induction lines generalizing t with
  | nil => exact ⟨rfl, close_session ending t⟩
  | cons line rest ih =>
      rw [converse]
      rcases hear_cases h t line with ⟨hexit, hend⟩ | ⟨hexit, next, hnext, hsession⟩
      · rw [hend, heard, List.takeWhile_cons_of_neg (by simp [hexit])]
        exact ⟨rfl, rfl⟩
      · obtain ⟨hresult, hlast⟩ := ih next
        rw [hnext, heard, List.takeWhile_cons_of_pos (by simp [hexit])]
        refine ⟨hresult, hlast.trans ?_⟩
        rw [hsession]
        rfl

/-- Without further effects the console goes on to its lines if it has opened. -/
private theorem run_runConsole (talk : Transcript → Conversation) (clock : WallClock)
    (s : Session) :
    Id.run (runConsole pure (fun t => pure (talk t)) clock s) =
      match (openConsole clock s).result with
      | .ok _ => talk (openConsole clock s).transcript
      | .error fault => ⟨.error fault, (openConsole clock s).transcript⟩ := by
  change Id.run (match (openConsole clock s).result with
    | .ok _ => pure (talk (openConsole clock s).transcript)
    | .error fault => pure ⟨.error fault, (openConsole clock s).transcript⟩) = _
  cases (openConsole clock s).result with
  | ok done => rfl
  | error fault => rfl

/-- The console either plays its lines up to the first exit, or has no time to show and leaves the
session as it finds it. -/
theorem runConsole_cases (clock : WallClock) (ending : Ending) (s : Session) (lines : List Text) :
    let talk := Id.run (runConsole pure (fun t => pure (converse clock ending t lines)) clock s)
    match stamp clock with
    | .ok _ => talk.result = .ok () ∧ talk.transcript.session = s.play (heard clock lines)
    | .error fault => talk.result = .error fault ∧ talk.transcript.session = s := by
  dsimp only
  rw [run_runConsole, openConsole_result]
  cases hstamp : stamp clock with
  | ok time =>
      obtain ⟨hresult, hsession⟩ :=
        converse_of_stamp hstamp ending (openConsole clock s).transcript lines
      rw [openConsole_session] at hsession
      exact ⟨hresult, hsession⟩
  | error fault => exact ⟨rfl, openConsole_session clock s⟩

end Agenda.Console
