import Agenda.Proofs.Fault
import Agenda.Proofs.Filter.Pieces

/-!
What a token is read as: one condition for each bracketed one, in order, and behind them at most
one more from the text that is left, which is a bare condition or a text to search for.
-/

namespace Agenda.Filter

open Text

/-- A value that a bracketed condition holds as it is. -/
def IsHeld (value : Text) : Prop := ']' ∉ value ∧ value = lower (trim value)

/-- The named conditions of kinds and values. -/
def conditionsOf (conditions : List (FilterKind × Text)) : List Predicate :=
  conditions.map fun c => .named c.1 c.2

theorem isHeld_lower_trim {body : Text} (h : ']' ∉ body) : IsHeld (lower (trim body)) := by
  constructor
  · exact bracket_not_mem_lower fun hmem => h (mem_of_mem_trim hmem)
  · rw [trim_lower, trim_trim, lower_lower]

theorem ofDirective_sound {word value : Text} {p : Predicate}
    (h : Predicate.ofDirective word value = .ok p) :
    ∃ kind, p = .named kind (lower (trim value)) := by
  unfold Predicate.ofDirective at h
  split at h
  · next kind _ =>
      exact ⟨kind, (Except.ok.inj h).symm⟩
  · cases h

theorem ofName?_eq_some_iff (word : Text) (kind : FilterKind) :
    FilterKind.ofName? word = some kind ↔ kind.name = lower (trim word) := by
  constructor
  · intro h
    simpa using List.find?_some h
  · intro h
    rw [FilterKind.ofName?, ← h]
    cases kind <;> decide

theorem ofDirective_name (kind : FilterKind) (value : Text) :
    Predicate.ofDirective kind.name value = .ok (.named kind (lower (trim value))) := by
  have hkind : FilterKind.ofName? kind.name = some kind := by
    cases kind <;> decide
  simp [Predicate.ofDirective, hkind]

theorem bare?_complete {kind : FilterKind} {word value t : Text} (h : IsBare kind word value t) :
    bare? t = some (word, value) := by
  obtain ⟨hword, hne, hvalue, gap, lead, hgap, hlead, rfl⟩ := h
  have hstart : trimStart (lead ++ value) = value := by
    rw [trimStart_allBlank_append hlead]
    apply trimStart_of_head
    intro c rest hc
    exact hvalue c (by rw [hc]; exact List.mem_cons_self)
  simp only [bare?, List.append_assoc, List.cons_append, kindAt?_complete hword hgap, hstart]
  simpa [hne] using hvalue

theorem bare?_sound {word value t : Text} (h : bare? t = some (word, value)) :
    ∃ kind, IsBare kind word value t := by
  simp only [bare?, Option.bind_eq_bind, Option.bind_eq_some_iff, Prod.exists] at h
  obtain ⟨found, rest, hkind, hvalue⟩ := h
  split at hvalue
  · cases hvalue
  · next hword =>
      simp only [Option.some.injEq, Prod.mk.injEq] at hvalue
      obtain ⟨rfl, rfl⟩ := hvalue
      obtain ⟨kind, gap, lead, hspells, hgap, hlead, ht, _⟩ := kindAt?_sound hkind
      refine ⟨kind, hspells, fun hnil => hword (Or.inl (List.isEmpty_iff.mpr hnil)), ?_, gap, lead, hgap, hlead, ?_⟩
      · intro c hc
        by_contra hblank
        rw [Bool.not_eq_false] at hblank
        exact hword (Or.inr (List.any_eq_true.mpr ⟨c, hc, hblank⟩))
      · rw [ht]
        simp

/-- The condition of what is left of a line: none, a bare one, or a text to search for. -/
theorem remainder_sound {rest : Text} {last : List Predicate} (h : remainder rest = .ok last) :
    (rest = [] ∧ last = []) ∨
    (∃ kind word value named, IsBare kind word value rest ∧
      last = [.named named (lower (trim value))]) ∨
    (rest ≠ [] ∧ (¬ ∃ kind word value, IsBare kind word value rest) ∧ last = [.text rest]) := by
  unfold remainder at h
  split at h
  · next hnil => exact Or.inl ⟨List.isEmpty_iff.mp hnil, (Except.ok.inj h).symm⟩
  · next hne =>
      split at h
      · next word value hbare =>
          obtain ⟨kind, hkind⟩ := bare?_sound hbare
          obtain ⟨p, hp, h⟩ := ok_of_bind h
          obtain ⟨named, rfl⟩ := ofDirective_sound hp
          exact Or.inr (Or.inl ⟨kind, word, value, named, hkind, (Except.ok.inj h).symm⟩)
      · next hbare =>
          refine Or.inr (Or.inr ⟨fun hnil => hne (List.isEmpty_iff.mpr hnil), ?_,
            (Except.ok.inj h).symm⟩)
          rintro ⟨kind, word, value, hkind⟩
          rw [bare?_complete hkind] at hbare
          cases hbare

/-- The conditions of pieces, if none is refused: as many as there are bracketed ones, and each
with the lowercase of the trimmed value of its piece. -/
theorem directives_sound {ps : List Piece} {found : List Predicate}
    (h : directives ps = .ok found) :
    ∃ conditions, found = conditionsOf conditions ∧
      conditions.length = ps.countP Piece.isDirective ∧
      ∀ c ∈ conditions, ∃ word value, Piece.directive word value ∈ ps ∧
        c.2 = lower (trim value) := by
  induction ps generalizing found with
  | nil =>
      refine ⟨[], (Except.ok.inj h).symm, rfl, ?_⟩
      intro c hc
      cases hc
  | cons piece rest ih =>
      cases piece with
      | char c =>
          obtain ⟨conditions, hfound, hlength, hmem⟩ := ih h
          refine ⟨conditions, hfound, ?_, ?_⟩
          · rw [hlength, List.countP_cons]
            rfl
          · intro d hd
            obtain ⟨word, value, hin, hvalue⟩ := hmem d hd
            exact ⟨word, value, List.mem_cons_of_mem _ hin, hvalue⟩
      | directive word value =>
          obtain ⟨p, hp, h⟩ := ok_of_bind h
          obtain ⟨more, hrest, h⟩ := ok_of_bind h
          obtain ⟨kind, rfl⟩ := ofDirective_sound hp
          obtain ⟨conditions, hmore, hlength, hmem⟩ := ih hrest
          refine ⟨(kind, lower (trim value)) :: conditions, ?_, ?_, ?_⟩
          · rw [← Except.ok.inj h, hmore]
            rfl
          · rw [List.length_cons, hlength, List.countP_cons]
            rfl
          · intro d hd
            rcases List.mem_cons.mp hd with rfl | hd
            · exact ⟨word, value, List.mem_cons_self, rfl⟩
            · obtain ⟨word', value', hin, hvalue⟩ := hmem d hd
              exact ⟨word', value', List.mem_cons_of_mem _ hin, hvalue⟩

theorem remnant_map_char (t : Text) : (t.map Piece.char).map Piece.remnant = t := by
  rw [List.map_map]
  exact List.map_id t

theorem directives_map_char (t : Text) : directives (t.map Piece.char) = .ok [] := by
  induction t with
  | nil => rfl
  | cons c rest ih => exact ih

/-- The reading of a blank token is no special case. -/
theorem parse_eq (token : Text) : parse token = do
    let found ← directives (pieces token)
    let last ← remainder (trim ((pieces token).map Piece.remnant))
    return ⟨found ++ last⟩ := by
  unfold parse
  by_cases hblank : isBlankText token = true
  · have hall := (isBlankText_iff token).mp hblank
    have hpieces := pieces_of_not_holdsDirective (not_holdsDirective_of_allBlank hall)
    rw [if_pos hblank, hpieces, directives_map_char, remnant_map_char, (trim_eq_nil_iff _).mpr hall]
    rfl
  · rw [if_neg hblank]

/-- The parts of a filter that a token is read as. -/
theorem parse_sound {token : Text} {f : Filter} (h : parse token = .ok f) :
    ∃ conditions last, f.predicates = conditionsOf conditions ++ last ∧
      (∀ c ∈ conditions, IsHeld c.2) ∧
      conditions.length = (pieces token).countP Piece.isDirective ∧
      remainder (trim ((pieces token).map Piece.remnant)) = .ok last := by
  rw [parse_eq] at h
  obtain ⟨found, hfound, h⟩ := ok_of_bind h
  obtain ⟨last, hlast, h⟩ := ok_of_bind h
  obtain ⟨conditions, rfl, hlength, hmem⟩ := directives_sound hfound
  refine ⟨conditions, last, by rw [← Except.ok.inj h], ?_, hlength, hlast⟩
  intro c hc
  obtain ⟨word, value, hin, hvalue⟩ := hmem c hc
  obtain ⟨_, body, _, ⟨_, hbody, _⟩, rfl, _⟩ := exists_isDirective_of_mem_pieces hin
  rw [hvalue, trim_trim]
  exact isHeld_lower_trim hbody

end Agenda.Filter
