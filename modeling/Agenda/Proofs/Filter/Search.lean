import Agenda.Filter.Basic
import Agenda.Proofs.Text.Sigma
import Mathlib

/-!
What a search for a text finds. The text that is searched for and the texts of a task are lowercased
apart from each other, so a piece of one of these is found at its place only if each of its sigmas has
the form there that it has where the piece stands alone.
-/

namespace Agenda

open Clock Text

/-- The texts of a task that a search looks through. -/
def Task.texts (task : Task) : List Text :=
  (task.name :: (task.tags ++ [task.project, task.note])).reduceOption

theorem Text.occursIn_iff_infix (needle hay : Text) :
    occursIn needle hay = true ↔ needle <:+: hay := by
  induction hay with
  | nil => rw [occursIn, List.isPrefixOf_iff_prefix, List.prefix_nil, List.infix_nil]
  | cons c rest ih =>
      rw [occursIn, Bool.or_eq_true, List.isPrefixOf_iff_prefix, ih, List.infix_cons_iff]

namespace Predicate

private theorem occurs_iff {needle : Text} (hne : needle ≠ []) (hay : Option Text) :
    occurs needle hay = true ↔ ∃ field, hay = some field ∧ needle <:+: lower field := by
  rw [occurs, occursIn_iff_infix]
  cases hay with
  | none => simpa [lower_char, lowerFrom] using hne
  | some field => simp

/-- A search finds a task if one of the texts has the text in its lowercase, in lowercase as well. -/
theorem textHolds_iff (needle : Text) (task : Task) : textHolds needle task = true ↔
    needle = [] ∨ ∃ field ∈ task.texts, lower needle <:+: lower field := by
  by_cases hnil : needle = []
  · rw [hnil]
    exact iff_of_true rfl (Or.inl rfl)
  have hne : lower needle ≠ [] := by rwa [ne_eq, lower_eq_nil_iff]
  have hempty : (lower needle).isEmpty = false := by simpa using hne
  have hmem : ∀ field, field ∈ task.texts ↔ some field = task.name ∨ some field ∈ task.tags ∨
      some field = task.project ∨ some field = task.note := by
    intro field
    simp [Task.texts, List.reduceOption_mem_iff]
  simp only [textHolds, hempty, Bool.or_eq_true, List.any_eq_true, occurs_iff hne, hnil, hmem,
    Bool.false_eq_true, false_or]
  constructor
  · rintro (((⟨field, hfield, h⟩ | ⟨_, htag, field, rfl, h⟩) | ⟨field, hfield, h⟩) |
      ⟨field, hfield, h⟩)
    · exact ⟨field, Or.inl hfield.symm, h⟩
    · exact ⟨field, Or.inr (Or.inl htag), h⟩
    · exact ⟨field, Or.inr (Or.inr (Or.inl hfield.symm)), h⟩
    · exact ⟨field, Or.inr (Or.inr (Or.inr hfield.symm)), h⟩
  · rintro ⟨field, hfield | htag | hfield | hfield, h⟩
    · exact Or.inl (Or.inl (Or.inl ⟨field, hfield.symm, h⟩))
    · exact Or.inl (Or.inl (Or.inr ⟨_, htag, field, rfl, h⟩))
    · exact Or.inl (Or.inr ⟨field, hfield.symm, h⟩)
    · exact Or.inr ⟨field, hfield.symm, h⟩

/-- A search for a piece of a text of a task finds the task wherever each sigma of the piece ends a
word in the whole exactly if it does in the piece. It finds every task with such a text, whatever the
rest of it, exactly if the piece has no sigma that hangs on what stands around it. -/
theorem search_finds_iff (t : Text) :
    (∀ clock anchor task a b, a ++ t ++ b ∈ Task.texts task → KeepsSigmas a t b →
      (text t).holds clock anchor task = .ok true) ∧
    ((∀ clock anchor task, ∀ field ∈ Task.texts task, t <:+: field →
        (text t).holds clock anchor task = .ok true) ↔ ¬ HasLooseSigma t) := by
  have hkept : ∀ task a b, a ++ t ++ b ∈ Task.texts task → KeepsSigmas a t b →
      textHolds t task = true := fun task a b hmem hkeeps =>
    (textHolds_iff t task).mpr (Or.inr ⟨_, hmem, hkeeps.lower_infix⟩)
  refine ⟨fun _ _ task a b hmem hkeeps => congrArg Except.ok (hkept task a b hmem hkeeps), ?_⟩
  constructor
  · intro hfinds hloose
    obtain ⟨whole, hwhole, hmissed⟩ := hloose.exists_not_infix
    let task : Task := { Task.ofName whole with project := none, note := none }
    have htexts : task.texts = [whole] := rfl
    have hfound : textHolds t task = true := Except.ok.inj
      (hfinds ⟨.utc, .ofInt 0⟩ .present task whole (by simp [htexts]) hwhole)
    rw [textHolds_iff, htexts] at hfound
    rcases hfound with rfl | ⟨field, hfield, hin⟩
    · exact hmissed List.nil_infix
    · rw [List.mem_singleton.mp hfield] at hin
      exact hmissed hin
  · rintro hnone _ _ task _ hfield ⟨a, b, rfl⟩
    exact congrArg Except.ok (hkept task a b hfield (keepsSigmas_of_not_hasLooseSigma hnone a b))

/-- A sigma at the start of a piece that a letter with case follows is the same everywhere. -/
theorem search_finds_sigma_in_front :
    (text "ΣΟΦΟ".toList).holds ⟨.utc, .ofInt 0⟩ .present (Task.ofName "ΦΙΛΟΣΟΦΟΣ".toList) =
      .ok true := by
  have hnone : ¬ HasLooseSigma "ΣΟΦΟ".toList := by
    rintro ⟨front, rest, hsplit, hloose⟩
    replace hsplit : 'Σ' :: "ΟΦΟ".toList = front ++ 'Σ' :: rest := hsplit
    cases front with
    | nil =>
        cases hsplit
        rcases hloose with ⟨_, hrest⟩ | ⟨hfront, _⟩
        · exact absurd hrest (by decide +kernel)
        · cases hfront
    | cons c front =>
        have htail : "ΟΦΟ".toList = front ++ 'Σ' :: rest := (List.cons.inj hsplit).2
        have hmem : 'Σ' ∈ "ΟΦΟ".toList := htail ▸ List.mem_append_cons_self
        exact absurd hmem (by decide)
  have hpiece : "ΣΟΦΟ".toList <:+: "ΦΙΛΟΣΟΦΟΣ".toList := by decide
  have hname : "ΦΙΛΟΣΟΦΟΣ".toList ∈ (Task.ofName "ΦΙΛΟΣΟΦΟΣ".toList).texts := List.mem_cons_self
  exact (search_finds_iff _).2.mpr hnone _ _ _ _ hname hpiece

/-- A sigma that ends the piece ends a word there, but not in the name of the task. -/
theorem search_misses_last_sigma :
    "ΑΣ".toList <:+: "ΑΣΒ".toList ∧
      (text "ΑΣ".toList).holds ⟨.utc, .ofInt 0⟩ .present (Task.ofName "ΑΣΒ".toList) =
        .ok false :=
  ⟨⟨[], ['Β'], rfl⟩, by decide +kernel⟩

end Predicate

end Agenda
