import Agenda.Preset.Registry
import Agenda.Proofs.Text.Alphabet
import Agenda.Proofs.Text.Halves
import Mathlib

/-!
What holds of every registry of saved filters that was built up by adding and removing: each name
is in the form in which names are kept, and each filter was read from a token.
-/

namespace Agenda

open Text

variable {α : Type} [Alphabet α]

theorem Ascending.nodup {entries : List (List α × Filter α)} (h : Ascending entries) :
    (entries.map Prod.fst).Nodup := by
  refine List.pairwise_map.mpr (h.imp ?_)
  intro a b hlt heq
  rw [heq] at hlt
  exact Text.lt_irrefl _ hlt

namespace Presets

/-- A name in the form in which names are kept. -/
structure IsKept (name : List α) : Prop where
  not_blank : isBlankText name = false
  key_eq : key name = name

theorem isKept_key [LawfulLower α] {name : List α} (h : isBlankText name = false) :
    IsKept (key name) := by
  have htight : IsTight (key name) := isTight_lower (isTight_trim name)
  constructor
  · rw [← Bool.not_eq_true, isBlankText_iff, ← trim_eq_nil_iff, trim_of_isTight htight, key,
      lower_nil_iff, trim_eq_nil_iff, ← isBlankText_iff, h]
    exact Bool.false_ne_true
  · rw [key, trim_of_isTight htight, key, LawfulLower.lower_twice]

/-- All names are in the form in which names are kept. -/
def AreKept (p : Presets α) : Prop := ∀ entry ∈ p.entries, IsKept entry.1

theorem areKept_empty : AreKept (empty : Presets α) := nofun

/-- A registry as adding and removing build it. -/
structure IsBuilt (p : Presets α) : Prop where
  kept : p.AreKept
  read : ∀ entry ∈ p.entries, ∃ source, Filter.parse source = .ok entry.2

theorem IsBuilt.empty : IsBuilt (empty : Presets α) := ⟨areKept_empty, nofun⟩

variable [DecidableEq α] {p : Presets α}

/-- Removing leaves some of the entries. -/
theorem entries_remove_subset (p : Presets α) (name : List α) :
    (p.remove name).2.entries ⊆ p.entries := by
  unfold remove
  split_ifs
  · exact List.filter_subset_self _
  · exact List.Subset.refl _

theorem AreKept.remove (h : p.AreKept) (name : List α) : (p.remove name).2.AreKept :=
  fun entry hentry => h entry (entries_remove_subset p name hentry)

theorem IsBuilt.remove (h : p.IsBuilt) (name : List α) : (p.remove name).2.IsBuilt :=
  ⟨h.kept.remove name, fun entry hentry => h.read entry (entries_remove_subset p name hentry)⟩

variable [DecidableLT α]

theorem AreKept.put [LawfulLower α] (h : p.AreKept) {name : List α}
    (hname : isBlankText name = false) (f : Filter α) : (p.put (key name) f).AreKept := by
  intro entry hentry
  rcases mem_entriesWith hentry with rfl | hentry
  · exact isKept_key hname
  · exact h entry hentry

/-- Adding leaves the registry as it is, or puts a filter that was read under the kept form of a
name that is not blank. -/
theorem add_cases (p : Presets α) (name : List α) (read : Except Fault (Filter α)) :
    (∃ fault, p.add name read = (.error fault, p)) ∨
      isBlankText name = false ∧ ∃ f, read = .ok f ∧ p.add name read = (.ok f, p.put (key name) f) := by
  unfold add
  split_ifs with hblank
  · exact .inl ⟨_, rfl⟩
  · cases read with
    | error fault => exact .inl ⟨fault, rfl⟩
    | ok f => exact .inr ⟨Bool.eq_false_iff.mpr hblank, f, rfl, rfl⟩

theorem AreKept.add [LawfulLower α] (h : p.AreKept) (name : List α)
    (read : Except Fault (Filter α)) : (p.add name read).2.AreKept := by
  rcases p.add_cases name read with ⟨fault, hadd⟩ | ⟨hname, f, _, hadd⟩
  · rw [hadd]
    exact h
  · rw [hadd]
    exact h.put hname f

/-- A name above all others comes last. -/
theorem entriesWith_of_forall_lt {name : List α} {f : Filter α}
    {entries : List (List α × Filter α)} (h : ∀ entry ∈ entries, entry.1 < name) :
    entriesWith name f entries = entries ++ [(name, f)] := by
  induction entries with
  | nil => rfl
  | cons old rest ih =>
      have hold := h old List.mem_cons_self
      have hne : name ≠ old.1 := by
        rintro rfl
        exact Text.lt_irrefl _ hold
      rw [entriesWith, if_neg (Text.le_of_lt hold), if_neg hne,
        ih fun entry hentry => h entry (List.mem_cons_of_mem _ hentry)]
      rfl

theorem IsBuilt.addToken [LawfulLower α] (h : p.IsBuilt) (name token : List α) :
    (p.addToken name token).2.IsBuilt := by
  rcases p.add_cases name (Filter.parse token) with ⟨fault, hadd⟩ | ⟨hname, f, hread, hadd⟩
  · rw [Presets.addToken, hadd]
    exact h
  · rw [Presets.addToken, hadd]
    refine ⟨h.kept.put hname f, ?_⟩
    intro entry hentry
    rcases mem_entriesWith hentry with rfl | hentry
    · exact ⟨token, hread⟩
    · exact h.read entry hentry

end Presets

end Agenda
