import Agenda.Proofs.Console.Line
import Agenda.Proofs.Preset.Store
import Mathlib

/-!
What the lines of a console do to the saved filters, and what saving and loading make of them after
any number of lines.
-/

namespace Agenda.Console

open Clock

namespace Session

theorem Edits.isBuilt {p next : Presets} (h : Edits p next) (hbuilt : p.IsBuilt) :
    next.IsBuilt := by
  cases h with
  | none => exact hbuilt
  | added name token => exact hbuilt.addToken name token
  | removed name => exact hbuilt.remove name

private theorem Step.presets_edits {s : Session} {clock : WallClock} {args : List Text}
    {command : Command} {turn : Turn} (h : Step s clock args command turn) :
    Edits s.presets turn.session.presets := by
  cases h with
  | edits _ _ hedits => exact hedits
  | _ => exact .none

/-- What one line does to the saved filters. -/
theorem handle_edits (s : Session) (clock : WallClock) (line : Text) :
    Edits s.presets (s.handle clock line).session.presets := by
  rcases s.handle_cases clock line with ⟨_, reply, hquiet⟩ | ⟨command, args, _, hturn⟩
  · rw [hquiet]
    exact .none
  · rw [hturn, Turn.handled_session]
    exact (run_step ..).presets_edits

/-- What lines add and remove keeps the saved filters as they are built. -/
theorem play_isBuilt {s : Session} (h : s.presets.IsBuilt) (lines : List (WallClock × Text)) :
    (s.play lines).presets.IsBuilt := by
  unfold play
  induction lines generalizing s with
  | nil => exact h
  | cons line rest ih => exact ih ((handle_edits s line.1 line.2).isBuilt h)

open Files

/-- Saved filters that lines have built up come back from their file exactly if all of them are
settled: the value of no condition has a closing bracket, and no text holds a bracketed condition.
On a calm disk the saving itself fails only where the file tree does not allow any saving. -/
theorem load_save_play_iff (tasks : List Task) (active : Filter) (lines : List (WallClock × Text))
    (tree : Tree) (path : Path) :
    let p := (play ⟨.empty, tasks, active⟩ lines).presets
    (p.save .calm tree path).1 = ((.empty : Presets).save .calm tree path).1 ∧
      ∀ (disk : Disk) (nesting : Nat), (p.save disk tree path).1 = .ok () →
        ((Presets.load nesting (p.save disk tree path).2 path).result = .ok p ↔
          ∀ entry ∈ p.entries, entry.2.IsSettled) := by
  intro p
  have hbuilt : p.IsBuilt := play_isBuilt (s := ⟨.empty, tasks, active⟩) .empty lines
  exact ⟨p.save_outcome .empty tree path, fun disk nesting => hbuilt.load_of_save_iff nesting⟩

/-- A condition of an ordinary value comes back. -/
theorem load_save_play_done :
    let path := Path.ofText "p.json".toList
    let p := (play .empty [(⟨.utc, .ofInt 0⟩, "/preset save x status:done".toList)]).presets
    (Presets.load 0 (p.save .calm .empty path).2 path).result = .ok p := by
  intro path p
  have hentries : p.entries = [("x".toList, ⟨[.named .status "done".toList]⟩)] := by
    decide +kernel
  refine ((load_save_play_iff [] .empty _ .empty path).2 .calm 0 (by decide +kernel)).mpr ?_
  change ∀ entry ∈ p.entries, entry.2.IsSettled
  intro entry hentry
  rw [hentries, List.mem_singleton] at hentry
  subst hentry
  constructor
  · intro kind value hvalue
    obtain ⟨rfl, rfl⟩ := Predicate.named.inj (List.mem_singleton.mp hvalue)
    decide
  · intro t ht
    cases List.mem_singleton.mp ht

/-- A bare condition admits a closing bracket, which its brackets cannot hold: the condition comes
back cut short, with the rest as a text. -/
theorem load_save_play_bracket :
    let path := Path.ofText "p.json".toList
    let p := (play .empty [(⟨.utc, .ofInt 0⟩, "/preset save x status:a]b".toList)]).presets
    (p.save .calm .empty path).1 = .ok () ∧
      (Presets.load 0 (p.save .calm .empty path).2 path).result ≠ .ok p ∧
      (Presets.load 0 (p.save .calm .empty path).2 path).result =
        .ok (.ofEntries [("x".toList, ⟨[.named .status "a".toList, .text "b]".toList]⟩)]) := by
  decide +kernel

end Session

end Agenda.Console
