import Agenda.Proofs.Filter.Reading
import Agenda.Proofs.Text.Fold

/-!
Which tokens are refused. The scanner takes a word for the name of a kind letter by letter, and
three letters agree with `i` or `s` there that have another lowercase. A word with such a letter is
scanned as the name of a kind, and then no kind has that name.
-/

namespace Agenda.Filter

open Text

/-- A letter that agrees with `i` or `s` and has another lowercase than that. -/
def isVariant (c : Char) : Bool := c == '\u0130' || c == '\u0131' || c == '\u017f'

def HasVariant (word : Text) : Prop := ∃ c ∈ word, isVariant c = true

instance (word : Text) : Decidable (HasVariant word) :=
  inferInstanceAs (Decidable (∃ c ∈ word, isVariant c = true))

/-- A letter that agrees with a plain one is lowercased to it, or is a variant. -/
theorem lowerChar_of_agrees {expected c : Char} (h : agrees expected c = true)
    (hvariant : isVariant c = false) : lowerChar c = [expected] := by
  simp only [isVariant, Bool.or_eq_false_iff, beq_eq_false_iff_ne, ne_eq] at hvariant
  obtain ⟨⟨hdotted, hdotless⟩, hlong⟩ := hvariant
  simp only [agrees, hdotless, hlong, Bool.or_eq_true, Bool.and_eq_true, beq_iff_eq, and_false,
    or_false] at h
  rw [← h, lowerChar, foldChar, if_neg hdotted, if_neg hdotted]

/-- No plain text is the lowercase of a variant. -/
theorem not_isVariant_of_lowerChar {d c : Char} (hd : d.toNat < 0x80) (h : lowerChar c = [d]) :
    isVariant c = false := by
  have hstays : (lowerChar '\u0131' = ['\u0131'] ∧ lowerChar '\u017f' = ['\u017f']) ∧
      lowerChar '\u0130' = ['i', '\u0307'] := by
    decide
  by_contra hvariant
  simp only [isVariant, Bool.not_eq_false, Bool.or_eq_true, beq_iff_eq] at hvariant
  rcases hvariant with (rfl | rfl) | rfl
  · rw [hstays.2] at h
    cases h
  · rw [hstays.1.1] at h
    cases h
    exact absurd hd (by decide)
  · rw [hstays.1.2] at h
    cases h
    exact absurd hd (by decide)

theorem allPlain_name (kind : FilterKind) : AllPlain kind.name := by
  cases kind <;> decide

/-- The lowercase of a spelled kind is its name, unless a letter is a variant. -/
theorem lower_of_spells {kind : FilterKind} {word : Text} (h : Spells kind word)
    (hvariant : ¬ HasVariant word) : lower word = kind.name := by
  rw [lower_eq_iff_of_plain (allPlain_name kind)]
  refine List.forall₂_iff_get.mpr ⟨h.length_eq, ?_⟩
  intro i hname hword
  refine lowerChar_of_agrees (h.get hname hword) (Bool.eq_false_iff.mpr fun hc => ?_)
  exact hvariant ⟨_, List.get_mem _ _, hc⟩

/-- No word with a variant has the name of a kind for its lowercase. -/
theorem lower_ne_name {word : Text} (h : HasVariant word) (kind : FilterKind) :
    lower word ≠ kind.name := by
  intro hname
  rw [lower_eq_iff_of_plain (allPlain_name kind)] at hname
  obtain ⟨c, hc, hvariant⟩ := h
  obtain ⟨i, hi, rfl⟩ := List.getElem_of_mem hc
  have hi' : i < kind.name.length := by rwa [hname.length_eq]
  have hplain := allPlain_name kind _ (List.getElem_mem hi')
  have hnone : isVariant word[i] = false := not_isVariant_of_lowerChar hplain (hname.get hi' hi)
  rw [hnone] at hvariant
  cases hvariant

/-- A word that is scanned as a kind has the name of that kind, unless a letter is a variant. -/
theorem ofName?_of_spells {kind : FilterKind} {word : Text} (h : Spells kind word) :
    FilterKind.ofName? word = if HasVariant word then none else some kind := by
  have htrim : trim word = word := by
    refine trim_of_isTight ⟨fun c rest hword => ?_, fun front c hword => ?_⟩
    · exact h.not_isBlank c (by simp [hword])
    · exact h.not_isBlank c (by simp [hword])
  rw [FilterKind.ofName?, htrim]
  split_ifs with hvariant
  · rw [List.find?_eq_none]
    intro other _
    simpa using (lower_ne_name hvariant other).symm
  · rw [lower_of_spells h hvariant]
    cases kind <;> decide

theorem ofDirective_of_spells {kind : FilterKind} {word : Text} (h : Spells kind word)
    (value : Text) : Predicate.ofDirective word value =
      if HasVariant word then .error (.unknownKind word)
      else .ok (.named kind (lower (trim value))) := by
  unfold Predicate.ofDirective
  rw [ofName?_of_spells h]
  split_ifs <;> rfl

/-- The token holds a condition, in brackets or bare behind all of these, whose kind is spelled with
a variant. -/
def Misspells (token : Text) : Prop :=
  ∃ word, HasVariant word ∧
    ((∃ value, Piece.directive word value ∈ pieces token) ∨
      ∃ kind value, IsBare kind word value (trim ((pieces token).map Piece.remnant)))

/-- The conditions of pieces are read, or the reading ends at the first misspelled one. -/
private theorem directives_cases {ps : List Piece}
    (h : ∀ word value, Piece.directive word value ∈ ps → ∃ kind, Spells kind word) :
    ((∃ found, directives ps = .ok found) ∧
        ∀ word value, Piece.directive word value ∈ ps → ¬ HasVariant word) ∨
      ∃ word value, Piece.directive word value ∈ ps ∧ HasVariant word ∧
        directives ps = .error (.unknownKind word) := by
  induction ps with
  | nil => exact Or.inl ⟨⟨[], rfl⟩, by simp⟩
  | cons piece rest ih =>
      have hrest := ih fun word value hmem => h word value (List.mem_cons_of_mem _ hmem)
      cases piece with
      | char c =>
          simpa [directives] using hrest
      | directive word value =>
          obtain ⟨kind, hspells⟩ := h word value List.mem_cons_self
          rw [directives, ofDirective_of_spells hspells]
          by_cases hvariant : HasVariant word
          · rw [if_pos hvariant]
            exact Or.inr ⟨word, value, List.mem_cons_self, hvariant, rfl⟩
          rw [if_neg hvariant]
          rcases hrest with ⟨⟨found, hfound⟩, hnone⟩ | ⟨other, otherValue, hmem, hodd, hfault⟩
          · rw [hfound]
            refine Or.inl ⟨⟨_, rfl⟩, ?_⟩
            intro other otherValue hmem
            rcases List.mem_cons.mp hmem with heq | hmem
            · obtain ⟨rfl, rfl⟩ := Piece.directive.inj heq
              exact hvariant
            · exact hnone other otherValue hmem
          · rw [hfault]
            exact Or.inr ⟨other, otherValue, List.mem_cons_of_mem _ hmem, hodd, rfl⟩

private theorem remainder_cases (rest : Text) :
    ((∃ last, remainder rest = .ok last) ∧
        ∀ kind word value, IsBare kind word value rest → ¬ HasVariant word) ∨
      ∃ kind word value, IsBare kind word value rest ∧ HasVariant word ∧
        remainder rest = .error (.unknownKind word) := by
  unfold remainder
  by_cases hnil : rest = []
  · rw [if_pos (List.isEmpty_iff.mpr hnil)]
    refine Or.inl ⟨⟨[], rfl⟩, ?_⟩
    intro kind word value hbare
    obtain ⟨_, _, _, gap, lead, _, _, heq⟩ := hbare
    rw [hnil] at heq
    simp at heq
  rw [if_neg (mt List.isEmpty_iff.mp hnil)]
  cases hread : bare? rest with
  | none =>
      refine Or.inl ⟨⟨_, rfl⟩, ?_⟩
      intro kind word value hbare
      rw [bare?_complete hbare] at hread
      cases hread
  | some found =>
      obtain ⟨word, value⟩ := found
      obtain ⟨kind, hbare⟩ := bare?_sound hread
      dsimp only
      rw [ofDirective_of_spells hbare.1]
      by_cases hvariant : HasVariant word
      · rw [if_pos hvariant]
        exact Or.inr ⟨kind, word, value, hbare, hvariant, rfl⟩
      · rw [if_neg hvariant]
        refine Or.inl ⟨⟨_, rfl⟩, ?_⟩
        intro kind' word' value' hbare'
        rw [bare?_complete hbare'] at hread
        cases hread
        exact hvariant

/-- A token is read, or refused for a word in it that is no kind, and refused exactly if it is
misspelled. -/
theorem parse_cases (token : Text) :
    (¬ Misspells token ∧ ∃ f, parse token = .ok f) ∨
      (Misspells token ∧ ∃ word, HasVariant word ∧ parse token = .error (.unknownKind word)) := by
  have hspelled : ∀ word value, Piece.directive word value ∈ pieces token →
      ∃ kind, Spells kind word := by
    intro word value hmem
    obtain ⟨kind, _, _, hdirective, _⟩ := exists_isDirective_of_mem_pieces hmem
    exact ⟨kind, hdirective.1⟩
  rw [parse_eq]
  rcases directives_cases hspelled with ⟨⟨found, hfound⟩, hnone⟩ | ⟨word, value, hmem, hodd, hfault⟩
  · rw [hfound]
    rcases remainder_cases (trim ((pieces token).map Piece.remnant)) with
      ⟨⟨last, hlast⟩, hplain⟩ | ⟨kind, word, value, hbare, hodd, hfault⟩
    · rw [hlast]
      refine Or.inl ⟨?_, _, rfl⟩
      rintro ⟨word, hvariant, ⟨value, hmem⟩ | ⟨kind, value, hbare⟩⟩
      · exact hnone word value hmem hvariant
      · exact hplain kind word value hbare hvariant
    · rw [hfault]
      exact Or.inr ⟨⟨word, hodd, Or.inr ⟨kind, value, hbare⟩⟩, word, hodd, rfl⟩
  · rw [hfault]
    exact Or.inr ⟨⟨word, hodd, Or.inl ⟨value, hmem⟩⟩, word, hodd, rfl⟩

theorem not_misspells_of_parse {token : Text} {f : Filter} (h : parse token = .ok f) :
    ¬ Misspells token := by
  rcases parse_cases token with ⟨hread, _⟩ | ⟨_, _, _, hfault⟩
  · exact hread
  · rw [hfault] at h
    cases h

end Agenda.Filter
