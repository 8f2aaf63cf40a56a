import Agenda.Files.Tree
import Mathlib

/-!
What is found in a tree after it has been changed. A path leads to the same place as long as no
folder is lost, and which steps succeed depends on where there are folders and files, not on what
the files hold.
-/

namespace Agenda.Files.Tree

theorem find?_put (place : Path) (entry : Entry) (entries : List (Path × Entry)) (q : Path) :
    ((put place entry entries).find? fun e => e.1 == q).map Prod.snd =
      if q = place then some entry else (entries.find? fun e => e.1 == q).map Prod.snd := by
  induction entries with
  | nil =>
      by_cases h : q = place
      · simp [put, h]
      · simp [put, h, Ne.symm h]
  | cons old rest ih =>
      by_cases hold : old.1 = place
      · by_cases h : q = place
        · simp [put, hold, h]
        · simp [put, hold, h, Ne.symm h]
      · by_cases h : old.1 = q
        · have hq : q ≠ place := fun heq => hold (h.trans heq)
          simp [put, h, hq]
        · simpa [put, hold, h] using ih

/-- A tree after one of its places has been filled. -/
theorem entryAt?_set (tree : Tree) (place : Path) (entry : Entry) (q : Path) :
    (tree.set place entry).entryAt? q =
      if isTop q then some .folder else if q = place then some entry else tree.entryAt? q := by
  unfold entryAt? set
  by_cases htop : isTop q = true
  · simp [htop]
  · simp only [htop, if_false, Bool.false_eq_true]
    exact find?_put place entry tree.entries q

/-- A tree after one of its places has been cleared. -/
theorem entryAt?_erase (tree : Tree) (place q : Path) :
    (tree.erase place).entryAt? q =
      if isTop q then some .folder else if q = place then none else tree.entryAt? q := by
  unfold entryAt? erase
  by_cases htop : isTop q = true
  · simp [htop]
  · simp only [htop, if_false, Bool.false_eq_true, List.find?_filter]
    by_cases h : q = place
    · subst h
      simp
    · rw [if_neg h]
      congr 2
      funext e
      by_cases he : e.1 = q
      · simp [he, h]
      · simp [he]

/-- Every folder of the one tree is a folder of the other. -/
def KeepsFolders (old new : Tree) : Prop :=
  ∀ q, old.entryAt? q = some .folder → new.entryAt? q = some .folder

theorem KeepsFolders.walk {old new : Tree} (h : KeepsFolders old new) {here stop : Path}
    {parts : List Text} (hwalk : old.walk here parts = .ok stop) :
    new.walk here parts = .ok stop := by
  induction parts generalizing here with
  | nil => exact hwalk
  | cons part rest ih =>
      rw [Tree.walk] at hwalk
      split at hwalk
      · cases hwalk
      · cases hwalk
      · next hfolder =>
          rw [Tree.walk, h here hfolder]
          simp only
          split_ifs at hwalk ⊢ with hup hlong
          · exact ih hwalk
          · exact ih hwalk

/-- A path that can be followed leads to the same place as long as no folder is lost. -/
theorem KeepsFolders.place {old new : Tree} (h : KeepsFolders old new) {p stop : Path}
    (hplace : old.place p = .ok stop) : new.place p = .ok stop := by
  unfold Tree.place at hplace ⊢
  split_ifs at hplace ⊢ with hnull hlong
  exact h.walk hplace

/-- A path without a part that leads upwards is its own place. -/
theorem place_of_not_upward {tree : Tree} {p place : Path} (hparts : upward ∉ p.parts)
    (h : tree.place p = .ok place) : place = p := by
  have hwalk : ∀ {here : Path} {parts : List Text}, upward ∉ parts →
      tree.walk here parts = .ok place → place = ⟨here.root, here.parts ++ parts⟩ := by
    intro here parts hparts h
    induction parts generalizing here with
    | nil => rw [← Except.ok.inj h, List.append_nil]
    | cons part rest ih =>
        obtain ⟨hpart, hrest⟩ := not_or.mp (mt List.mem_cons.mpr hparts)
        rw [Tree.walk] at h
        split at h
        · cases h
        · cases h
        · rw [if_neg (Ne.symm hpart)] at h
          split_ifs at h
          rw [ih hrest h, Path.child, List.append_assoc]
          rfl
  unfold Tree.place at h
  split_ifs at h
  exact hwalk hparts h

theorem KeepsFolders.set {tree : Tree} {place : Path} {entry : Entry}
    (h : tree.entryAt? place ≠ some .folder) : KeepsFolders tree (tree.set place entry) := by
  intro q hq
  rw [entryAt?_set]
  split_ifs with htop heq
  · rfl
  · exact absurd (heq ▸ hq) h
  · exact hq

theorem KeepsFolders.erase {tree : Tree} {place : Path}
    (h : tree.entryAt? place ≠ some .folder) : KeepsFolders tree (tree.erase place) := by
  intro q hq
  rw [entryAt?_erase]
  split_ifs with htop heq
  · rfl
  · exact absurd (heq ▸ hq) h
  · exact hq

/-- A folder that is made fills a free place. -/
theorem exists_of_makeFolder {disk : Disk} {tree made : Tree} {p : Path}
    (h : tree.makeFolder disk p = .ok made) :
    ∃ place, tree.entryAt? place = none ∧ made = tree.set place .folder := by
  unfold makeFolder at h
  cases hplace : tree.place p with
  | error trouble =>
      rw [hplace] at h
      cases h
  | ok place =>
      rw [hplace] at h
      simp only [bind, Except.bind] at h
      split at h
      · cases h
      · next hfree =>
          split at h
          · split at h
            · cases h
            · exact ⟨place, hfree, (Except.ok.inj h).symm⟩
          · cases h
          · cases h

/-- What is kept whenever a free place is filled with a folder is kept by making folders, whether it
succeeds or not. -/
theorem makeFolders_keeps (keeps : Tree → Tree → Prop) (refl : ∀ tree, keeps tree tree)
    (trans : ∀ {a b c}, keeps a b → keeps b c → keeps a c)
    (fill : ∀ {tree place}, entryAt? tree place = none → keeps tree (tree.set place .folder))
    (disk : Disk) (tree : Tree) (p : Path) : keeps tree (tree.makeFolders disk p).2 := by
  have hmake : ∀ {tree made : Tree} {p : Path}, tree.makeFolder disk p = .ok made →
      keeps tree made := by
    intro tree made p h
    obtain ⟨place, hfree, rfl⟩ := exists_of_makeFolder h
    exact fill hfree
  have hup : ∀ (parts : List Text) (tree : Tree),
      keeps tree (tree.makeFoldersUp disk p.root parts).2 := by
    intro parts
    induction parts with
    | nil => exact refl
    | cons part above ih =>
        intro tree
        rw [makeFoldersUp]
        dsimp only
        split
        · next made hmade => exact hmake hmade
        · have hparents := ih tree
          split
          · next fault parents heq => rwa [heq] at hparents
          · next parents heq =>
              rw [heq] at hparents
              split
              · next made hmade => exact trans hparents (hmake hmade)
              · exact hparents
        · exact refl tree
  exact hup p.parts.reverse tree

theorem keepsFolders_makeFolders (disk : Disk) (tree : Tree) (p : Path) :
    KeepsFolders tree (tree.makeFolders disk p).2 :=
  makeFolders_keeps KeepsFolders (fun _ _ => id) (fun h h' q hq => h' q (h q hq))
    (fun hfree => KeepsFolders.set (by simp [hfree])) disk tree p

/-- A folder stands at every top, so a place without one is not a top. -/
theorem not_isTop {tree : Tree} {q : Path} (h : tree.entryAt? q ≠ some .folder) :
    isTop q = false := by
  by_contra htop
  rw [Bool.not_eq_false] at htop
  exact h (by simp [entryAt?, htop])

/-- A file that can be opened for writing has a place, and no folder is there. -/
theorem place_of_openFile {disk : Disk} {tree : Tree} {p place : Path}
    (h : tree.openFile disk p = .ok place) :
    tree.place p = .ok place ∧ tree.entryAt? place ≠ some .folder := by
  unfold openFile at h
  cases hplace : tree.place p with
  | error trouble =>
      rw [hplace] at h
      cases h
  | ok found =>
      rw [hplace] at h
      dsimp only at h
      split at h
      · cases h
      · next _ hno =>
          split at h
          · cases h
          · cases h
            exact ⟨rfl, hno⟩
      · cases h
      · cases h

/-- A write fails before the file is opened and changes nothing, or it leaves a file that holds the
first bytes behind what was kept, and all of them if it succeeds. -/
theorem writeBehind_cases (disk : Disk) (tree : Tree) (p : Path) (kept : ByteArray)
    (content : Except Fault ByteArray) :
    (∃ fault, tree.writeBehind disk p kept content = (.error fault, tree)) ∨
      ∃ place, tree.place p = .ok place ∧ tree.entryAt? place ≠ some .folder ∧
        ((∃ fault n, tree.writeBehind disk p kept content = (.error fault,
            tree.set place (.file (kept ++ (content.toOption.getD .empty).extract 0 n)))) ∨
          ∃ bytes, content = .ok bytes ∧
            tree.writeBehind disk p kept content =
              (.ok (), tree.set place (.file (kept ++ bytes)))) := by
  unfold writeBehind
  cases hopen : tree.openFile disk p with
  | error fault => exact .inl ⟨fault, rfl⟩
  | ok place =>
      obtain ⟨hplace, hno⟩ := place_of_openFile hopen
      refine .inr ⟨place, hplace, hno, ?_⟩
      cases content with
      | error fault => exact .inl ⟨fault, 0, rfl⟩
      | ok bytes =>
          dsimp only
          cases disk.breaksOff tree p bytes with
          | some broken => exact .inl ⟨_, broken.1, rfl⟩
          | none => exact .inr ⟨bytes, rfl, rfl⟩

/-- Whether a calm disk writes a content does not depend on the content. -/
theorem write_calm (tree : Tree) (p : Path) :
    (∃ fault, ∀ bytes, tree.write .calm p (.ok bytes) = (.error fault, tree)) ∨
      ∃ place, ∀ bytes, tree.write .calm p (.ok bytes) = (.ok (), tree.set place (.file bytes)) := by
  unfold write writeBehind
  cases tree.openFile .calm p with
  | error fault => exact .inl ⟨fault, fun _ => rfl⟩
  | ok place =>
      refine .inr ⟨place, fun bytes => ?_⟩
      simp only [Disk.calm, ByteArray.empty_append]

/-- Where a file is moved from and to, and what the tree is like then. -/
theorem move_file {disk : Disk} {tree moved : Tree} {source target start : Path}
    {content : ByteArray} (h : tree.move disk source target = .ok moved) (hstart : tree.place source = .ok start)
    (hfile : tree.entryAt? start = some (.file content)) :
    ∃ stop, tree.place target = .ok stop ∧ tree.entryAt? stop ≠ some .folder ∧
      moved = if start = stop then tree else (tree.erase start).set stop (.file content) := by
  unfold move at h
  rw [hstart] at h
  cases hstop : tree.place target with
  | error trouble =>
      rw [hstop] at h
      cases h
  | ok stop =>
      rw [hstop] at h
      dsimp only at h
      by_cases hup : target.parts.getLast? = some upward
      · rw [if_pos hup] at h
        cases h
      · rw [if_neg hup, hfile] at h
        refine ⟨stop, rfl, ?_⟩
        split at h
        · cases h
        · next hentry hno =>
            cases hentry
            split at h
            · cases h
            · exact ⟨fun hfolder => hno content hfolder rfl, (Except.ok.inj h).symm⟩
        · cases h

theorem has_of_find {tree : Tree} {p : Path} {entry : Entry} (h : tree.find p = .ok (some entry)) :
    tree.has p = .ok true := by
  simp [has, h]

theorem read_of_find {tree : Tree} {p : Path} {content : ByteArray}
    (h : tree.find p = .ok (some (.file content))) : tree.read p = .ok content := by
  simp [read, h]

/-- Two trees have folders in the same places, and files in the same places. -/
def SameShape (a b : Tree) : Prop :=
  ∀ q, (a.entryAt? q = none ↔ b.entryAt? q = none) ∧
    (a.entryAt? q = some .folder ↔ b.entryAt? q = some .folder)

theorem SameShape.set (tree : Tree) (place : Path) (c d : ByteArray) :
    SameShape (tree.set place (.file c)) (tree.set place (.file d)) := by
  intro q
  rw [entryAt?_set, entryAt?_set]
  split_ifs <;> simp

/-- What stands at a place, as far as the shape tells. -/
theorem SameShape.cases {a b : Tree} (h : SameShape a b) (q : Path) :
    (a.entryAt? q = none ∧ b.entryAt? q = none) ∨
      (a.entryAt? q = some .folder ∧ b.entryAt? q = some .folder) ∨
      ∃ c d, a.entryAt? q = some (.file c) ∧ b.entryAt? q = some (.file d) := by
  obtain ⟨hnone, hfolder⟩ := h q
  cases ha : a.entryAt? q with
  | none => exact Or.inl ⟨rfl, hnone.mp ha⟩
  | some entry =>
      cases hb : b.entryAt? q with
      | none => simp [ha, hb] at hnone
      | some other =>
          cases entry with
          | folder => exact Or.inr (Or.inl ⟨rfl, hb ▸ hfolder.mp ha⟩)
          | file c =>
              cases other with
              | folder => simp [ha, hb] at hfolder
              | file d => exact Or.inr (Or.inr ⟨c, d, rfl, rfl⟩)

theorem SameShape.walk {a b : Tree} (h : SameShape a b) (here : Path) (parts : List Text) :
    a.walk here parts = b.walk here parts := by
  induction parts generalizing here with
  | nil => rfl
  | cons part rest ih =>
      rw [Tree.walk, Tree.walk]
      rcases h.cases here with ⟨ha, hb⟩ | ⟨ha, hb⟩ | ⟨c, d, ha, hb⟩
      · rw [ha, hb]
      · rw [ha, hb]
        simp only [ih]
      · rw [ha, hb]

theorem SameShape.place {a b : Tree} (h : SameShape a b) (p : Path) : a.place p = b.place p := by
  unfold Tree.place
  simp only [h.walk]

/-- Whether a calm disk moves a file, and what the trouble is if not, depends on the shape only. -/
theorem SameShape.move {a b : Tree} (h : SameShape a b) (source target : Path) :
    (∃ fault, a.move .calm source target = .error fault ∧
        b.move .calm source target = .error fault) ∨
      ∃ c d, a.move .calm source target = .ok c ∧ b.move .calm source target = .ok d := by
  unfold Tree.move
  rw [h.place source, h.place target]
  cases b.place source with
  | error trouble => exact Or.inl ⟨_, rfl, rfl⟩
  | ok start =>
      cases b.place target with
      | error trouble => exact Or.inl ⟨_, rfl, rfl⟩
      | ok stop =>
          dsimp only
          by_cases hup : target.parts.getLast? = some upward
          · rw [if_pos hup, if_pos hup]
            exact Or.inl ⟨_, rfl, rfl⟩
          · rw [if_neg hup, if_neg hup]
            rcases h.cases start with ⟨ha, hb⟩ | ⟨ha, hb⟩ | ⟨_, _, ha, hb⟩
            · rw [ha, hb]
              exact Or.inl ⟨_, rfl, rfl⟩
            · rw [ha, hb]
              exact Or.inr ⟨_, _, rfl, rfl⟩
            · rcases h.cases stop with ⟨ha', hb'⟩ | ⟨ha', hb'⟩ | ⟨_, _, ha', hb'⟩
              · rw [ha, hb, ha', hb']
                exact Or.inr ⟨_, _, rfl, rfl⟩
              · rw [ha, hb, ha', hb']
                exact Or.inl ⟨_, rfl, rfl⟩
              · rw [ha, hb, ha', hb']
                exact Or.inr ⟨_, _, rfl, rfl⟩

end Agenda.Files.Tree
