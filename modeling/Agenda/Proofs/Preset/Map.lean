import Agenda.Proofs.Preset.Registry
import Mathlib

/-!
Saved filters as a finite map. Whatever a registry is asked, and in whatever order, it answers as a
finite map does whose keys are names in lowercase and without outer blanks.
-/

namespace Agenda.Presets

open Text

/-- What a registry can be asked. -/
inductive Request (α : Type) where
  | add (name : List α) (f : Filter α)
  | addToken (name token : List α)
  | get (name : List α)
  | remove (name : List α)
  | has (name : List α)
  | names
  | size

inductive Answer (α : Type) where
  /-- The filter that was added, or why none was. -/
  | added (outcome : Except Fault (Filter α))
  | found (f : Option (Filter α))
  | holds (condition : Bool)
  | names (names : List (List α))
  | size (n : Nat)

/-- The answers to requests in order, and what is left behind by them. -/
def transcript {α σ : Type} (serve : σ → Request α → Answer α × σ) (s : σ) :
    List (Request α) → List (Answer α) × σ
  | [] => ([], s)
  | request :: rest =>
    let (answer, next) := serve s request
    let (more, last) := transcript serve next rest
    (answer :: more, last)

section

variable {α : Type} [Alphabet α] [DecidableEq α] [DecidableLT α]

/-- A registry answers a request. -/
def serve (p : Presets α) : Request α → Answer α × Presets α
  | .add name f =>
    let (outcome, left) := p.add name (.ok f)
    (.added outcome, left)
  | .addToken name token =>
    let (outcome, left) := p.addToken name token
    (.added outcome, left)
  | .get name => (.found (p.get? name), p)
  | .remove name =>
    let (there, left) := p.remove name
    (.holds there, left)
  | .has name => (.holds (p.has name), p)
  | .names => (.names p.names, p)
  | .size => (.size p.size, p)

/-- A finite map from names to filters. -/
abbrev FilterMap (α : Type) := Finmap fun _ : List α => Filter α

namespace FilterMap

/-- Puts the filter that was read under the trimmed name in lowercase, unless the name is blank. -/
def store (m : FilterMap α) (name : List α) (read : Except Fault (Filter α)) :
    Except Fault (Filter α) × FilterMap α :=
  if isBlankText name then (.error .namelessPreset, m)
  else
    match read with
    | .ok f => (.ok f, m.insert (lower (trim name)) f)
    | .error fault => (.error fault, m)

/-- A finite map answers a request. -/
def serve (m : FilterMap α) : Request α → Answer α × FilterMap α
  | .add name f =>
    let (outcome, left) := m.store name (.ok f)
    (.added outcome, left)
  | .addToken name token =>
    let (outcome, left) := m.store name (Filter.parse token)
    (.added outcome, left)
  | .get name => (.found (m.lookup (lower (trim name))), m)
  | .remove name =>
    (.holds (decide (lower (trim name) ∈ m)), m.erase (lower (trim name)))
  | .has name => (.holds (decide (lower (trim name) ∈ m)), m)
  | .names => (.names (m.keys.sort (· ≤ ·)), m)
  | .size => (.size m.keys.card, m)

end FilterMap

end

section Entries

variable {ν β : Type} [DecidableEq ν]

theorem entry?_cons (name : ν) (entry : ν × β) (rest : List (ν × β)) :
    entry? name (entry :: rest) = if entry.1 = name then some entry.2 else entry? name rest := by
  unfold entry?
  rw [List.find?_cons]
  split
  · next h => rw [if_pos (by simpa using h), Option.map_some]
  · next h => rw [if_neg (by simpa using h)]

theorem entry?_filter_ne (name other : ν) (entries : List (ν × β)) :
    entry? other (entries.filter fun entry => entry.1 ≠ name) =
      if name = other then none else entry? other entries := by
  induction entries with
  | nil => split_ifs <;> rfl
  | cons old rest ih =>
      by_cases hold : old.1 = name
      · rw [List.filter_cons_of_neg (by simp [hold]), ih, entry?_cons, hold]
        split_ifs <;> rfl
      · rw [List.filter_cons_of_pos (by simp [hold]), entry?_cons, ih, entry?_cons]
        split_ifs with hother hname
        · exact absurd (hother.trans hname.symm) hold
        all_goals rfl

end Entries

variable {α : Type} [Alphabet α]

/-- Every listed name is in the form in which names are kept. -/
theorem AreKept.of_mem_names {p : Presets α} (h : p.AreKept) {name : List α}
    (hname : name ∈ p.names) : IsKept name := by
  obtain ⟨entry, hentry, rfl⟩ := List.mem_map.mp hname
  exact h entry hentry

variable [DecidableEq α]

theorem mem_names_iff (p : Presets α) (name : List α) :
    name ∈ p.names ↔ (p.lookup? name).isSome = true := by
  simp [lookup?, entry?, names]

/-- The registry holds what the finite map holds. -/
def Represents (p : Presets α) (m : FilterMap α) : Prop :=
  ∀ name, p.lookup? name = m.lookup name

theorem entry?_entriesWith [DecidableLT α] (name other : List α) (f : Filter α)
    (entries : List (List α × Filter α)) :
    entry? other (entriesWith name f entries) =
      if name = other then some f else entry? other entries := by
  induction entries with
  | nil => exact entry?_cons other (name, f) []
  | cons old rest ih =>
      rw [entriesWith]
      by_cases hbefore : name < old.1
      · rw [if_pos hbefore, entry?_cons]
      by_cases hsame : name = old.1
      · rw [if_neg hbefore, if_pos hsame, entry?_cons, entry?_cons, ← hsame]
        split_ifs <;> rfl
      · rw [if_neg hbefore, if_neg hsame, entry?_cons, entry?_cons, ih]
        split_ifs with hold hother
        · exact absurd (hother.trans hold.symm) hsame
        all_goals rfl

namespace Represents

theorem empty : Represents (.empty : Presets α) ∅ := fun _ => rfl

variable {p : Presets α} {m : FilterMap α}

theorem mem_iff (h : Represents p m) (name : List α) : name ∈ m ↔ name ∈ p.names := by
  rw [mem_names_iff, h, Finmap.lookup_isSome]

/-- The empty name is in no registry whose names are kept. -/
theorem not_mem_key_nil [LawfulLower α] (h : Represents p m) (hkept : p.AreKept) :
    key [] ∉ m := by
  rw [h.mem_iff]
  intro hmem
  have hnil : key ([] : List α) = [] := (lower_nil_iff _).mpr rfl
  have hblank := (hkept.of_mem_names hmem).not_blank
  rw [hnil] at hblank
  cases hblank

theorem get?_eq [LawfulLower α] (h : Represents p m) (hkept : p.AreKept) (name : List α) :
    p.get? name = m.lookup (key name) := by
  unfold get?
  split_ifs with hnil
  · rw [hnil, Finmap.lookup_eq_none.mpr (h.not_mem_key_nil hkept)]
  · exact h _

theorem has_eq (h : Represents p m) (name : List α) : p.has name = decide (key name ∈ m) := by
  rw [has, h, Bool.eq_iff_iff, decide_eq_true_eq, Finmap.lookup_isSome]

theorem remove [LawfulLower α] (h : Represents p m) (hkept : p.AreKept) (name : List α) :
    (p.remove name).1 = decide (key name ∈ m) ∧
      Represents (p.remove name).2 (m.erase (key name)) := by
  have hthere : name ≠ [] ∧ p.has name = true ↔ key name ∈ m := by
    rw [h.has_eq, decide_eq_true_eq]
    refine and_iff_right_of_imp ?_
    rintro hmem rfl
    exact h.not_mem_key_nil hkept hmem
  unfold Presets.remove
  by_cases hmem : key name ∈ m
  · rw [if_pos (hthere.mpr hmem)]
    refine ⟨(decide_eq_true hmem).symm, fun other => ?_⟩
    rw [lookup?, entry?_filter_ne, ← lookup?, h]
    split_ifs with hother
    · rw [← hother, Finmap.lookup_erase]
    · rw [Finmap.lookup_erase_ne (Ne.symm hother)]
  · rw [if_neg fun h => hmem (hthere.mp h)]
    refine ⟨(decide_eq_false hmem).symm, fun other => ?_⟩
    rw [h]
    by_cases hother : other = key name
    · rw [hother, Finmap.lookup_erase, Finmap.lookup_eq_none.mpr hmem]
    · rw [Finmap.lookup_erase_ne hother]

variable [DecidableLT α]

theorem put (h : Represents p m) (name : List α) (f : Filter α) :
    Represents (p.put name f) (m.insert name f) := by
  intro other
  rw [lookup?, Presets.put, entry?_entriesWith, ← lookup?, h]
  split_ifs with hother
  · rw [hother, Finmap.lookup_insert]
  · rw [Finmap.lookup_insert_of_ne m (Ne.symm hother)]

/-- What is added to the registry is stored in the finite map. -/
theorem add (h : Represents p m) (name : List α) (read : Except Fault (Filter α)) :
    (p.add name read).1 = (m.store name read).1 ∧
      Represents (p.add name read).2 (m.store name read).2 := by
  unfold Presets.add FilterMap.store
  split_ifs
  · exact ⟨rfl, h⟩
  · cases read with
    | error fault => exact ⟨rfl, h⟩
    | ok f => exact ⟨rfl, h.put _ f⟩

theorem names_eq (h : Represents p m) : p.names = m.keys.sort (· ≤ ·) := by
  have hsame : p.names.toFinset = m.keys := by
    ext name
    rw [List.mem_toFinset, Finmap.mem_keys, h.mem_iff]
  rw [← hsame]
  refine ((List.toFinset_sort _ p.ascending.nodup).mpr ?_).symm
  exact List.pairwise_map.mpr (p.ascending.imp Text.le_of_lt)

theorem size_eq (h : Represents p m) : p.size = m.keys.card := by
  rw [← Finset.length_sort (· ≤ ·), ← h.names_eq, names, List.length_map, size]

end Represents

variable [DecidableLT α]

/-- The registry holds what the finite map holds, under kept names. -/
structure Keeps (p : Presets α) (m : FilterMap α) : Prop where
  represents : Represents p m
  kept : p.AreKept

namespace Keeps

variable [LawfulLower α] {p : Presets α} {m : FilterMap α}

omit [LawfulLower α] [DecidableLT α] in
theorem empty : Keeps (.empty : Presets α) ∅ := ⟨.empty, areKept_empty⟩

theorem add (h : Keeps p m) (name : List α) (read : Except Fault (Filter α)) :
    (p.add name read).1 = (m.store name read).1 ∧
      Keeps (p.add name read).2 (m.store name read).2 := by
  obtain ⟨houtcome, hleft⟩ := h.represents.add name read
  exact ⟨houtcome, hleft, h.kept.add name read⟩

/-- One request is answered alike, and what is left behind is alike. -/
theorem serve (h : Keeps p m) (request : Request α) :
    (p.serve request).1 = (m.serve request).1 ∧
      Keeps (p.serve request).2 (m.serve request).2 := by
  cases request with
  | add name f =>
      obtain ⟨houtcome, hleft⟩ := h.add name (.ok f)
      exact ⟨congrArg Answer.added houtcome, hleft⟩
  | addToken name token =>
      obtain ⟨houtcome, hleft⟩ := h.add name (Filter.parse token)
      exact ⟨congrArg Answer.added houtcome, hleft⟩
  | get name => exact ⟨congrArg Answer.found (h.represents.get?_eq h.kept name), h⟩
  | remove name =>
      obtain ⟨hthere, hleft⟩ := h.represents.remove h.kept name
      exact ⟨congrArg Answer.holds hthere, hleft, h.kept.remove name⟩
  | has name => exact ⟨congrArg Answer.holds (h.represents.has_eq name), h⟩
  | names => exact ⟨congrArg Answer.names h.represents.names_eq, h⟩
  | size => exact ⟨congrArg Answer.size h.represents.size_eq, h⟩

theorem transcript (h : Keeps p m) (requests : List (Request α)) :
    (Presets.transcript Presets.serve p requests).1 =
        (Presets.transcript FilterMap.serve m requests).1 ∧
      Keeps (Presets.transcript Presets.serve p requests).2
        (Presets.transcript FilterMap.serve m requests).2 := by
  induction requests generalizing p m with
  | nil => exact ⟨rfl, h⟩
  | cons request rest ih =>
      obtain ⟨hanswer, hnext⟩ := h.serve request
      obtain ⟨hmore, hlast⟩ := ih hnext
      exact ⟨congrArg₂ List.cons hanswer hmore, hlast⟩

end Keeps

/-- A request to add that is refused leaves the registry as it is. -/
theorem serve_of_refused {p : Presets α} {request : Request α} {fault : Fault}
    (h : (p.serve request).1 = .added (.error fault)) : (p.serve request).2 = p := by
  have hadd : ∀ name read, (p.add name read).1 = .error fault → (p.add name read).2 = p := by
    intro name read hfault
    rcases p.add_cases name read with ⟨_, heq⟩ | ⟨_, f, _, heq⟩
    · rw [heq]
    · rw [heq] at hfault
      cases hfault
  cases request with
  | add name f =>
      have hfault : Answer.added (p.add name (.ok f)).1 = .added (.error fault) := h
      exact hadd name _ (Answer.added.inj hfault)
  | addToken name token =>
      have hfault : Answer.added (p.addToken name token).1 = .added (.error fault) := h
      exact hadd name _ (Answer.added.inj hfault)
  | remove name => cases h
  | get | has | names | size => rfl

/-- A registry is a finite map on names in lowercase and without outer blanks. From the empty one on,
it answers any requests as the finite map does. After them its names ascend, are as many as it says,
and each is found under itself with the filter of the finite map; and a request to add that is
refused changes nothing. -/
theorem transcript_eq_map [LawfulLower α] (requests : List (Request α)) :
    let p := (transcript serve (empty : Presets α) requests).2
    let m := (transcript FilterMap.serve (∅ : FilterMap α) requests).2
    (transcript serve (empty : Presets α) requests).1 =
        (transcript FilterMap.serve (∅ : FilterMap α) requests).1 ∧
      (p.names.Pairwise (· < ·) ∧ p.names.length = p.size) ∧
      (∀ name ∈ p.names, p.has name = true ∧
        ∃ f, p.get? name = some f ∧ m.lookup name = some f) ∧
      ∀ request fault, (p.serve request).1 = .added (.error fault) → (p.serve request).2 = p := by
  intro p m
  obtain ⟨hanswers, h⟩ := Keeps.empty.transcript requests
  refine ⟨hanswers, ⟨List.pairwise_map.mpr p.ascending, List.length_map _⟩, ?_, ?_⟩
  · intro name hname
    have hmem := (h.represents.mem_iff name).mpr hname
    have hkey := (h.kept.of_mem_names hname).key_eq
    obtain ⟨f, hf⟩ := Finmap.mem_iff.mp hmem
    refine ⟨?_, f, ?_, hf⟩
    · rw [h.represents.has_eq, hkey, decide_eq_true hmem]
    · rw [h.represents.get?_eq h.kept, hkey, hf]
  · exact fun request fault => serve_of_refused

/-- A filter that is saved as `Work` is found, replaced and removed as ` work `. -/
theorem transcript_eq_map_work :
    let work : List Point := spell "Work".toList
    let again : List Point := spell " work ".toList
    let f : Filter Point := ⟨[.text (spell "a".toList)]⟩
    let g : Filter Point := ⟨[.text [.half 0xd800 (by decide)]]⟩
    (transcript serve (empty : Presets Point)
      [.add work f, .get again, .add again g, .get work, .remove again, .has work]).1 =
      [.added (.ok f), .found (some f), .added (.ok g), .found (some g), .holds true,
        .holds false] := by
  intro work again f g
  have hsame : lower (trim again) = lower (trim work) := by decide +kernel
  have hnamed : isBlankText work = false ∧ isBlankText again = false := by decide
  rw [(transcript_eq_map _).1]
  simp only [transcript, FilterMap.serve, FilterMap.store, hnamed]
  rw [hsame]
  simp

end Agenda.Presets
