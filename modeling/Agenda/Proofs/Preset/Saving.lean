import Agenda.Preset.Store
import Agenda.Proofs.Files.Contents
import Agenda.Proofs.Json.RoundTrip
import Agenda.Proofs.Preset.Registry
import Mathlib

/-!
What saving does to the files of a tree. It writes the saved filters beside their path and moves the
file there, and leaves the other files as they are. What stands beside the path already goes with the
move, or holds as much of the new content as was written where saving fails.
-/

namespace Agenda.Presets

open Files Json Text

theorem ofBytes?_toBytes (t : Text) : ofBytes? (toBytes t) = some t := by
  have hvalid : (String.ofList t).toUTF8.IsValidUTF8 := (String.ofList t).isValidUTF8
  have hback : String.fromUTF8 (String.ofList t).toUTF8 hvalid = String.ofList t := rfl
  rw [ofBytes?, toBytes, String.fromUTF8?, dif_pos hvalid, hback]
  exact congrArg some String.toList_ofList

/-- In the tree this is the place of the file beside a path in which saving writes first. It has the
name of the path with another suffix. -/
def DraftAt (tree : Tree) (path place : Path) : Prop :=
  ∃ draft, path.withSuffix ".tmp".toList = .ok draft ∧ tree.place draft = .ok place

variable {α : Type} [Alphabet α]

theorem decode?_toBytes [DecidableEq α] (nesting : Nat) (t : Text) :
    decode? (α := α) nesting (toBytes t) = read? nesting t := by
  rw [decode?, ofBytes?_toBytes, Option.bind_some]

/-- Saved filters that can be encoded are read as an object of their tokens, in the order of their
names, however little nesting is allowed. -/
theorem decode?_of_content [DecidableEq α] {p : Presets α} {content : ByteArray}
    (h : p.content = .ok content) (nesting : Nat) :
    decode? nesting content =
      some (.object (p.entries.map fun entry => (entry.1, .string entry.2.token))) := by
  obtain ⟨s, hs, rfl⟩ := encode_eq_ok_iff.mp h
  have hnames : (p.tokens.map Prod.fst).Nodup := by
    have hsame : p.tokens.map Prod.fst = p.entries.map Prod.fst := by simp [tokens]
    rw [hsame]
    exact p.ascending.nodup
  rw [decode?_toBytes, read?_writeFields nesting hs hnames, stringFields, tokens, List.map_map]
  rfl

/-- The first bytes of the content: none of one that cannot be encoded. -/
def begun (p : Presets α) (n : Nat) : ByteArray := (p.content.toOption.getD .empty).extract 0 n

/-- Saving fails and leaves all files as they are, or as they are but for the file beside the path,
which holds as much of the content as was written; or it succeeds, and the file beside the path has
been moved there. -/
theorem save_cases (p : Presets α) (disk : Disk) (tree : Tree) (path : Path) :
    (∃ fault left, p.save disk tree path = (.error fault, left) ∧
        ((∀ q, left.fileAt? q = tree.fileAt? q) ∨
          ∃ beside n, DraftAt left path beside ∧
            ∀ q, left.fileAt? q = if q = beside then some (p.begun n) else tree.fileAt? q)) ∨
      ∃ content saved beside target, p.content = .ok content ∧
        p.save disk tree path = (.ok (), saved) ∧
        DraftAt saved path beside ∧ saved.place path = .ok target ∧
        ∀ q, saved.fileAt? q =
          if q = target then some content else if q = beside then none else tree.fileAt? q := by
  have hfolders := tree.fileAt?_makeFolders disk path.parent
  unfold save
  rcases hmade : tree.makeFolders disk path.parent with ⟨fault | _, prepared⟩ <;>
    rw [hmade] at hfolders
  · exact .inl ⟨fault, prepared, rfl, .inl hfolders⟩
  dsimp only
  cases hdraft : path.withSuffix draftSuffix with
  | error fault => exact .inl ⟨fault, prepared, rfl, .inl hfolders⟩
  | ok draft =>
      dsimp only [Tree.write]
      rcases prepared.writeBehind_cases disk draft .empty p.content with
        ⟨fault, hwrite⟩ | ⟨beside, hplace, hno, hwrite⟩
      · rw [hwrite]
        exact .inl ⟨fault, prepared, rfl, .inl hfolders⟩
      -- the tree with some bytes in the file beside the path
      have hplace' (bytes : ByteArray) : (prepared.set beside (.file bytes)).place draft =
          .ok beside := (Tree.KeepsFolders.set hno).place hplace
      have hwritten (bytes : ByteArray) : ∀ q, (prepared.set beside (.file bytes)).fileAt? q =
          if q = beside then some bytes else tree.fileAt? q := fun q => by
        rw [Tree.fileAt?_set_file bytes hno, hfolders]
      simp only [ByteArray.empty_append] at hwrite
      rcases hwrite with ⟨fault, n, hwrite⟩ | ⟨content, hcontent, hwrite⟩
      · rw [hwrite]
        exact .inl ⟨fault, _, rfl, .inr ⟨beside, n, ⟨draft, hdraft, hplace' _⟩, hwritten _⟩⟩
      · rw [hwrite]
        dsimp only
        cases hmove : (prepared.set beside (.file content)).move disk draft path with
        | error fault =>
            have hall : p.begun content.size = content := by
              rw [begun, hcontent]
              exact ByteArray.extract_zero_size
            refine .inl ⟨fault, _, rfl, .inr ⟨beside, content.size, ⟨draft, hdraft, hplace' _⟩, ?_⟩⟩
            rw [hall]
            exact hwritten content
        | ok moved =>
            have hfile : (prepared.set beside (.file content)).entryAt? beside =
                some (.file content) := by
              rw [← Tree.fileAt?_eq_some_iff, hwritten, if_pos rfl]
            obtain ⟨target, ⟨hbeside, htarget⟩, hmoved⟩ :=
              Tree.move_files hmove (hplace' content) hfile
            refine .inr ⟨content, moved, beside, target, hcontent, rfl, ⟨draft, hdraft, hbeside⟩,
              htarget, fun q => ?_⟩
            rw [hmoved, hwritten]
            split_ifs <;> rfl

/-- What has been saved is found under the path. -/
theorem find_of_save {p : Presets α} {disk : Disk} {tree : Tree} {path : Path}
    (h : (p.save disk tree path).1 = .ok ()) :
    ∃ content, p.content = .ok content ∧
      (p.save disk tree path).2.find path = .ok (some (.file content)) := by
  rcases p.save_cases disk tree path with
    ⟨fault, left, hsave, _⟩ | ⟨content, saved, beside, target, hcontent, hsave, _, htarget, hfiles⟩
  · rw [hsave] at h
    cases h
  · rw [hsave]
    exact ⟨content, hcontent,
      Tree.find_eq_file_iff.mpr ⟨target, htarget, by rw [hfiles, if_pos rfl]⟩⟩

end Agenda.Presets
