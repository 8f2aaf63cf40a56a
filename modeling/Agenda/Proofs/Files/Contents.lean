import Agenda.Proofs.Files.Tree
import Mathlib

/-!
What the files of a tree hold, and what an operation changes of that. Making folders changes nothing
of it, writing changes the file that is written, and moving changes the two places it is about.
-/

namespace Agenda.Files.Tree

/-- What the file at a place holds, if there is one. -/
def fileAt? (tree : Tree) (place : Path) : Option ByteArray :=
  match tree.entryAt? place with
  | some (.file content) => some content
  | _ => none

theorem fileAt?_eq_some_iff {tree : Tree} {place : Path} {content : ByteArray} :
    tree.fileAt? place = some content ↔ tree.entryAt? place = some (.file content) := by
  unfold fileAt?
  cases tree.entryAt? place with
  | none => simp
  | some entry => cases entry <;> simp

/-- A top is a folder. -/
theorem fileAt?_of_isTop {tree : Tree} {place : Path} (h : isTop place = true) :
    tree.fileAt? place = none := by
  simp [fileAt?, entryAt?, h]

/-- A place that is filled with a file. -/
theorem fileAt?_set_file {tree : Tree} {place : Path} (content : ByteArray)
    (h : tree.entryAt? place ≠ some .folder) (q : Path) :
    (tree.set place (.file content)).fileAt? q =
      if q = place then some content else tree.fileAt? q := by
  by_cases htop : isTop q = true
  · have hne : q ≠ place := by
      rintro rfl
      rw [not_isTop h] at htop
      cases htop
    rw [if_neg hne, fileAt?_of_isTop htop, fileAt?_of_isTop htop]
  · rw [fileAt?, entryAt?_set, if_neg htop]
    split_ifs with heq
    · rfl
    · rfl

/-- A free place that is filled with a folder. -/
theorem fileAt?_set_folder {tree : Tree} {place : Path} (h : tree.entryAt? place = none)
    (q : Path) : (tree.set place .folder).fileAt? q = tree.fileAt? q := by
  by_cases htop : isTop q = true
  · rw [fileAt?_of_isTop htop, fileAt?_of_isTop htop]
  · rw [fileAt?, entryAt?_set, if_neg htop]
    split_ifs with heq
    · rw [heq, fileAt?, h]
    · rfl

/-- A place that is cleared. -/
theorem fileAt?_erase (tree : Tree) (place q : Path) :
    (tree.erase place).fileAt? q = if q = place then none else tree.fileAt? q := by
  by_cases htop : isTop q = true
  · rw [fileAt?_of_isTop htop, fileAt?_of_isTop htop, ite_self]
  · rw [fileAt?, entryAt?_erase, if_neg htop]
    split_ifs with heq
    · rfl
    · rfl

/-- Making folders changes no file, whether it succeeds or not. -/
theorem fileAt?_makeFolders (disk : Disk) (tree : Tree) (p : Path) (q : Path) :
    (tree.makeFolders disk p).2.fileAt? q = tree.fileAt? q :=
  makeFolders_keeps (fun old new => new.fileAt? q = old.fileAt? q) (fun _ => rfl)
    (fun h h' => h'.trans h) (fun hfree => fileAt?_set_folder hfree q) disk tree p

/-- A file that is moved goes from its place to the other one, over the file that is there. -/
theorem move_files {disk : Disk} {tree moved : Tree} {source target start : Path}
    {content : ByteArray} (h : tree.move disk source target = .ok moved) (hstart : tree.place source = .ok start)
    (hfile : tree.entryAt? start = some (.file content)) :
    ∃ stop, (moved.place source = .ok start ∧ moved.place target = .ok stop) ∧
      ∀ q, moved.fileAt? q =
        if q = stop then some content else if q = start then none else tree.fileAt? q := by
  obtain ⟨stop, hstop, hno, rfl⟩ := move_file h hstart hfile
  refine ⟨stop, ?_⟩
  by_cases heq : start = stop
  · subst heq
    rw [if_pos rfl]
    refine ⟨⟨hstart, hstop⟩, fun q => ?_⟩
    split_ifs with hq
    · rw [hq, fileAt?_eq_some_iff, hfile]
    · rfl
  · rw [if_neg heq]
    have hstop' : (tree.erase start).entryAt? stop ≠ some .folder := by
      rw [entryAt?_erase, if_neg (by simp [not_isTop hno]), if_neg (Ne.symm heq)]
      exact hno
    have hkeeps : KeepsFolders tree ((tree.erase start).set stop (.file content)) := fun q hq =>
      KeepsFolders.set hstop' q (KeepsFolders.erase (by simp [hfile]) q hq)
    refine ⟨⟨hkeeps.place hstart, hkeeps.place hstop⟩, fun q => ?_⟩
    rw [fileAt?_set_file content hstop', fileAt?_erase]

/-- A path leads to a file. -/
theorem find_eq_file_iff {tree : Tree} {p : Path} {content : ByteArray} :
    tree.find p = .ok (some (.file content)) ↔
      ∃ place, tree.place p = .ok place ∧ tree.fileAt? place = some content := by
  unfold find
  cases tree.place p with
  | error trouble => exact iff_of_false nofun nofun
  | ok place =>
      simp [fileAt?_eq_some_iff, bind, Except.bind, pure, Except.pure]

section

variable {tree : Tree} {p : Path} {content : ByteArray}
  (h : tree.find p = .ok (some (.file content)))

include h

/-- A path that leads to a file still does when folders are made. -/
theorem find_makeFolders (disk : Disk) (q : Path) :
    (tree.makeFolders disk q).2.find p = .ok (some (.file content)) := by
  obtain ⟨place, hplace, hfile⟩ := find_eq_file_iff.mp h
  exact find_eq_file_iff.mpr ⟨place, (keepsFolders_makeFolders disk tree q).place hplace,
    (fileAt?_makeFolders disk tree q place).trans hfile⟩

/-- A path that leads to a file still does when another file is written to its end. -/
theorem find_append {q : Path} (hapart : ∀ place, tree.place q = .ok place → tree.place p ≠ .ok place)
    (disk : Disk) (more : ByteArray) :
    (tree.append disk q more).2.find p = .ok (some (.file content)) := by
  obtain ⟨place, hplace, hfile⟩ := find_eq_file_iff.mp h
  have hset : ∀ {other bytes}, tree.place q = .ok other → tree.entryAt? other ≠ some .folder →
      (tree.set other (.file bytes)).find p = .ok (some (.file content)) := by
    intro other bytes hother hno
    refine find_eq_file_iff.mpr ⟨place, (KeepsFolders.set hno).place hplace, ?_⟩
    have hne : place ≠ other := by
      rintro rfl
      exact hapart place hother hplace
    rw [fileAt?_set_file bytes hno, if_neg hne, hfile]
  unfold append
  rcases tree.writeBehind_cases disk q ((tree.read q).toOption.getD .empty) (.ok more) with
    ⟨fault, hwrite⟩ | ⟨other, hother, hno, ⟨fault, n, hwrite⟩ | ⟨bytes, _, hwrite⟩⟩
  · rw [hwrite]
    exact h
  · rw [hwrite]
    exact hset hother hno
  · rw [hwrite]
    exact hset hother hno

end

end Agenda.Files.Tree
