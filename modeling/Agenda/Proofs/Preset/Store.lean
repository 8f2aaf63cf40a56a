import Agenda.Proofs.Fault
import Agenda.Proofs.Filter.Canonical
import Agenda.Proofs.Preset.Saving
import Mathlib

/-!
Saving and loading. Whether a calm disk saves a registry of characters is up to the file tree alone,
and loading what was saved reads every filter from its own token again.
-/

namespace Agenda.Presets

open Files Json Text

/-- On a calm disk the outcome of saving depends on the tree and the path, not on what is saved. -/
theorem save_outcome (p q : Presets) (tree : Tree) (path : Path) :
    (p.save .calm tree path).1 = (q.save .calm tree path).1 := by
  have hp : p.content = .ok (toBytes (writeFields p.tokens)) := encode_char _
  have hq : q.content = .ok (toBytes (writeFields q.tokens)) := encode_char _
  unfold save
  rw [hp, hq]
  rcases tree.makeFolders .calm path.parent with ⟨_ | _, prepared⟩
  · rfl
  · dsimp only
    cases path.withSuffix draftSuffix with
    | error fault => rfl
    | ok draft =>
        dsimp only
        rcases prepared.write_calm draft with ⟨fault, hfault⟩ | ⟨place, hset⟩
        · rw [hfault, hfault]
        · rw [hset, hset]
          dsimp only
          rcases (Tree.SameShape.set prepared place _ _).move draft path with
            ⟨fault, ha, hb⟩ | ⟨c, d, ha, hb⟩
          · rw [ha, hb]
          · rw [ha, hb]

section

variable {α : Type} [Alphabet α]

/-- A saved filter as it is read from its own token. -/
def rereadEntry (entry : List α × Filter α) : Except Fault (List α × Filter α) :=
  (Filter.parse entry.2.token).map fun f => (entry.1, f)

private theorem mapM_rereadEntry_iff (entries : List (List α × Filter α)) :
    entries.mapM rereadEntry = .ok entries ↔
      ∀ entry ∈ entries, Filter.parse entry.2.token = .ok entry.2 := by
  induction entries with
  | nil => simp [pure, Except.pure]
  | cons entry rest ih =>
      rw [List.mapM_cons, List.forall_mem_cons, ← ih, rereadEntry]
      cases hparse : Filter.parse entry.2.token with
      | error fault => simp [bind, Except.bind, Except.map]
      | ok f =>
          cases hrest : rest.mapM rereadEntry with
          | error fault => simp [bind, Except.bind, Except.map]
          | ok more =>
              simp [bind, Except.bind, pure, Except.pure, Except.map, Prod.ext_iff]

/-- The fields of names and tokens. -/
def fieldsOf (entries : List (List α × Filter α)) : List (List α × Value α) :=
  entries.map fun entry => (entry.1, .string entry.2.token)

variable [DecidableEq α] [DecidableLT α]

theorem ofContent_result {nesting : Nat} {path : Text} {content : ByteArray}
    {fields : List (List α × Value α)} (h : decode? nesting content = some (.object fields)) :
    (ofContent (α := α) nesting path content).result = (addFields empty fields).result := by
  unfold ofContent
  rw [h]
  dsimp only
  split
  · rfl
  · next p hresult => rw [hresult]

/-- Fields that are read build the registry up. -/
theorem IsBuilt.addFields [LawfulLower α] {p q : Presets α} (hbuilt : p.IsBuilt)
    {fields : List (List α × Value α)} (h : (Presets.addFields p fields).result = .ok q) :
    q.IsBuilt := by
  induction fields generalizing p with
  | nil =>
      cases h
      exact hbuilt
  | cons field rest ih =>
      obtain ⟨name, value⟩ := field
      cases value with
      | string token =>
          have hadded := hbuilt.addToken name token
          rw [Presets.addFields] at h
          split at h
          · exact ih hbuilt h
          · generalize p.addToken name token = added at hadded h
            obtain ⟨_ | f, next⟩ := added
            · cases h
            · exact ih hadded h
      | _ => exact ih hbuilt h

/-- What is loaded is built up from the fields of a file, or empty. -/
theorem isBuilt_of_load [LawfulLower α] {nesting : Nat} {tree : Tree} {path : Path} {p : Presets α}
    (h : (load nesting tree path).result = .ok p) : p.IsBuilt := by
  have hempty : ∀ {q : Presets α}, (.ok empty : Except Fault (Presets α)) = .ok q → q.IsBuilt := by
    rintro _ ⟨⟩
    exact .empty
  unfold load at h
  split at h
  · cases h
  · exact hempty h
  · split at h
    · next content _ =>
        cases hdecode : decode? (α := α) nesting content with
        | none =>
            rw [ofContent, hdecode] at h
            exact hempty h
        | some value =>
            cases value with
            | object fields =>
                rw [ofContent_result hdecode] at h
                exact IsBuilt.addFields .empty h
            | _ =>
                rw [ofContent, hdecode] at h
                exact hempty h
    · exact hempty h

/-- Loading from a path that leads to a file is reading the content of that file. -/
theorem load_of_find {tree : Tree} {path : Path} {content : ByteArray} (nesting : Nat)
    (h : tree.find path = .ok (some (.file content))) :
    load (α := α) nesting tree path = ofContent nesting path.text content := by
  unfold load
  rw [Tree.has_of_find h]
  dsimp only
  rw [Tree.read_of_find h]

/-- The field of a kept name that is above all others is put behind them, with the filter of its
token. -/
private theorem addToken_above {p : Presets α} {name : List α} (hname : IsKept name)
    (habove : ∀ a ∈ p.entries, a.1 < name) (token : List α) :
    (∃ fault, Filter.parse token = .error fault ∧ p.addToken name token = (.error fault, p)) ∨
      ∃ g next, Filter.parse token = .ok g ∧ p.addToken name token = (.ok g, next) ∧
        next.entries = p.entries ++ [(name, g)] := by
  unfold addToken add
  rw [if_neg (by simp [hname.not_blank]), hname.key_eq]
  cases Filter.parse token with
  | error fault => exact .inl ⟨fault, rfl, rfl⟩
  | ok g => exact .inr ⟨g, _, rfl, rfl, entriesWith_of_forall_lt habove⟩

/-- Loading the fields of a registry reads its filters again. The names come in ascending order, so
each new one is put behind those that are there. -/
private theorem addFields_fieldsOf (p : Presets α) {rest : List (List α × Filter α)}
    (hascending : Ascending rest) (habove : ∀ a ∈ p.entries, ∀ b ∈ rest, a.1 < b.1)
    (hkept : ∀ entry ∈ rest, IsKept entry.1) :
    (addFields p (fieldsOf rest)).result.map entries =
      (rest.mapM rereadEntry).map fun more => p.entries ++ more := by
  induction rest generalizing p with
  | nil => simp [fieldsOf, addFields, Except.map, pure, Except.pure]
  | cons entry rest ih =>
      obtain ⟨name, f⟩ := entry
      obtain ⟨hname, hrest⟩ := List.pairwise_cons.mp hascending
      have hkeptName := hkept (name, f) List.mem_cons_self
      have hfields : fieldsOf ((name, f) :: rest) = (name, .string f.token) :: fieldsOf rest := rfl
      rw [hfields, addFields, if_neg (by simp [hkeptName.not_blank]), List.mapM_cons, rereadEntry]
      rcases addToken_above hkeptName (fun a ha => habove a ha (name, f) List.mem_cons_self)
        f.token with ⟨fault, hparse, hadd⟩ | ⟨g, next, hparse, hadd, hentries⟩
      · rw [hadd, hparse]
        rfl
      · have habove' : ∀ a ∈ next.entries, ∀ b ∈ rest, a.1 < b.1 := by
          intro a ha b hb
          rw [hentries] at ha
          rcases List.mem_append.mp ha with ha | ha
          · exact habove a ha b (List.mem_cons_of_mem _ hb)
          · rw [List.mem_singleton.mp ha]
            exact hname b hb
        have hmore := ih next hrest habove' fun entry hentry =>
          hkept entry (List.mem_cons_of_mem _ hentry)
        rw [hadd, hparse]
        dsimp only
        rw [hmore, hentries]
        cases rest.mapM rereadEntry with
        | error fault => rfl
        | ok more => simp [Except.map, bind, Except.bind, pure, Except.pure]

/-- Loading what was saved reads every filter from its own token again. -/
theorem load_of_save {p : Presets α} {disk : Disk} {tree : Tree} {path : Path} (nesting : Nat)
    (hkept : p.AreKept) (h : (p.save disk tree path).1 = .ok ()) :
    (load (α := α) nesting (p.save disk tree path).2 path).result.map entries =
      p.entries.mapM rereadEntry := by
  obtain ⟨content, hcontent, hfind⟩ := find_of_save h
  rw [load_of_find nesting hfind, ofContent_result (decode?_of_content hcontent nesting)]
  refine (addFields_fieldsOf empty p.ascending nofun hkept).trans ?_
  cases p.entries.mapM rereadEntry with
  | error fault => rfl
  | ok entries => rfl

/-- The filters come back as they were exactly if each survives its own token. -/
theorem load_of_save_iff {p : Presets α} {disk : Disk} {tree : Tree} {path : Path} (nesting : Nat)
    (hkept : p.AreKept) (h : (p.save disk tree path).1 = .ok ()) :
    (load nesting (p.save disk tree path).2 path).result = .ok p ↔
      ∀ entry ∈ p.entries, Filter.parse entry.2.token = .ok entry.2 := by
  rw [← mapM_rereadEntry_iff, ← load_of_save nesting hkept h]
  cases (load (α := α) nesting (p.save disk tree path).2 path).result with
  | error fault => simp [Except.map]
  | ok loaded =>
      obtain ⟨known, hknown⟩ := p
      obtain ⟨found, hfound⟩ := loaded
      simp [Except.map]

end

/-- The filters of characters that adding and removing have left come back exactly if all of them are
settled. -/
theorem IsBuilt.load_of_save_iff {p : Presets} (hbuilt : p.IsBuilt) {disk : Disk} {tree : Tree}
    {path : Path} (nesting : Nat) (h : (p.save disk tree path).1 = .ok ()) :
    (load nesting (p.save disk tree path).2 path).result = .ok p ↔
      ∀ entry ∈ p.entries, entry.2.IsSettled := by
  rw [Presets.load_of_save_iff nesting hbuilt.kept h]
  refine forall₂_congr fun entry hentry => ?_
  obtain ⟨source, hread⟩ := hbuilt.read entry hentry
  rw [← Filter.isCanonical_iff_of_parse hread]
  exact ⟨Filter.isCanonical_of_parse_token, Filter.parse_token_of_isCanonical⟩

end Agenda.Presets
