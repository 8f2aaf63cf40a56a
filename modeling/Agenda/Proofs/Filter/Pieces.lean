import Agenda.Proofs.Filter.Directive

/-!
The pieces of a token. A token is read from the left: a bracketed condition that starts here is
one piece and the reading goes on behind it, and otherwise the next code point is a piece of its
own. A text is read without conditions exactly if it holds none.
-/

namespace Agenda.Filter

open Text

def Piece.isDirective : Piece → Bool
  | .directive _ _ => true
  | .char _ => false

private theorem piecesAfter_eq (n : Nat) (s : Text) : piecesAfter n s = pieces (s.drop n) := by
  induction s generalizing n with
  | nil => simp [pieces, piecesAfter]
  | cons c s ih =>
      cases n with
      | zero => rfl
      | succ n => exact ih n

private theorem pieces_cons_of_some {c : Char} {s word value : Text} {n : Nat}
    (h : bracketAt? (c :: s) = some (word, value, n)) :
    pieces (c :: s) = .directive word value :: pieces (s.drop (n - 1)) := by
  rw [pieces, piecesAfter, h]
  exact congrArg _ (piecesAfter_eq _ _)

private theorem pieces_cons_of_none {c : Char} {s : Text} (h : bracketAt? (c :: s) = none) :
    pieces (c :: s) = .char c :: pieces s := by
  rw [pieces, piecesAfter, h]
  rfl

/-- A condition at the start of a text is its first piece, whatever follows. -/
theorem pieces_directive_append {kind : FilterKind} {word body d : Text}
    (h : IsDirective kind word body d) (rest : Text) :
    pieces (d ++ rest) = .directive word (trim body) :: pieces rest := by
  have hread := bracketAt?_complete h rest
  have hd : ∃ more, d = '[' :: more := by
    obtain ⟨_, _, lead, gap, _, _, rfl⟩ := h
    exact ⟨_, rfl⟩
  obtain ⟨more, rfl⟩ := hd
  rw [List.cons_append] at hread ⊢
  rw [pieces_cons_of_some hread]
  simp

/-- One step of the reading: a condition and what is behind it, or a single code point in front of
which no condition starts. -/
theorem pieces_step (c : Char) (s : Text) :
    (∃ kind word body d rest, IsDirective kind word body d ∧ c :: s = d ++ rest ∧
      pieces (c :: s) = .directive word (trim body) :: pieces rest) ∨
    (pieces (c :: s) = .char c :: pieces s ∧
      ∀ kind word body d, IsDirective kind word body d → ¬ d <+: c :: s) := by
  cases hread : bracketAt? (c :: s) with
  | none =>
      right
      refine ⟨pieces_cons_of_none hread, ?_⟩
      rintro kind word body d hd ⟨rest, hrest⟩
      have hsome := bracketAt?_complete hd rest
      rw [hrest, hread] at hsome
      cases hsome
  | some found =>
      left
      obtain ⟨word, value, n⟩ := found
      obtain ⟨kind, body, d, rest, hd, _, _, hs⟩ := bracketAt?_sound hread
      exact ⟨kind, word, body, d, rest, hd, hs, by rw [hs]; exact pieces_directive_append hd rest⟩

/-- A condition is not empty, so the reading of what is behind it is a shorter one. -/
theorem IsDirective.length_pos {kind : FilterKind} {word body d : Text}
    (h : IsDirective kind word body d) : 0 < d.length := by
  obtain ⟨_, _, lead, gap, _, _, rfl⟩ := h
  simp

/-- A bracketed condition starts with a bracket, so blanks in front of a text make none. -/
theorem holdsDirective_allBlank_append {a : Text} (ha : AllBlank a) (t : Text) :
    HoldsDirective (a ++ t) ↔ HoldsDirective t := by
  constructor
  · rintro ⟨kind, word, body, d, hd, hin⟩
    refine ⟨kind, word, body, d, hd, ?_⟩
    induction a with
    | nil => exact hin
    | cons c rest ih =>
        apply ih fun e he => ha e (List.mem_cons_of_mem _ he)
        rcases List.infix_cons_iff.mp hin with ⟨more, hprefix⟩ | hinside
        · obtain ⟨_, _, lead, gap, _, _, rfl⟩ := hd
          have hopen : '[' = c := (List.cons.inj hprefix).1
          have hblank : isBlank '[' = true := hopen ▸ ha c List.mem_cons_self
          exact absurd hblank (by decide)
        · exact hinside
  · rintro ⟨kind, word, body, d, hd, hin⟩
    exact ⟨kind, word, body, d, hd, hin.trans (List.suffix_append a t).isInfix⟩

theorem not_holdsDirective_nil : ¬ HoldsDirective [] := by
  rintro ⟨kind, word, body, d, hd, hin⟩
  have hpos := hd.length_pos
  have hlength := hin.length_le
  simp only [List.length_nil] at hlength
  omega

theorem not_holdsDirective_of_allBlank {t : Text} (h : AllBlank t) : ¬ HoldsDirective t := by
  have hiff := holdsDirective_allBlank_append h []
  rw [List.append_nil] at hiff
  exact fun hholds => not_holdsDirective_nil (hiff.mp hholds)

/-- Every condition among the pieces comes from a bracketed condition of the text. -/
theorem exists_isDirective_of_mem_pieces {t word value : Text}
    (h : Piece.directive word value ∈ pieces t) :
    ∃ kind body d, IsDirective kind word body d ∧ value = trim body ∧ d <:+: t := by
  induction hn : t.length using Nat.strong_induction_on generalizing t with
  | _ n ih =>
      cases t with
      | nil => cases h
      | cons c s =>
          rcases pieces_step c s with ⟨kind, word', body, d, rest, hd, hs, hp⟩ | ⟨hp, _⟩
          · rw [hp] at h
            rcases List.mem_cons.mp h with heq | hmem
            · obtain ⟨rfl, rfl⟩ := Piece.directive.inj heq
              exact ⟨kind, body, d, hd, rfl, by rw [hs]; exact (List.prefix_append d rest).isInfix⟩
            · have hshort : rest.length < n := by
                have hlength := congrArg List.length hs
                have hpos := hd.length_pos
                simp only [List.length_append] at hlength
                omega
              obtain ⟨kind', body', d', hd', hvalue, hin⟩ := ih _ hshort hmem rfl
              exact ⟨kind', body', d', hd', hvalue,
                by rw [hs]; exact hin.trans (List.suffix_append d rest).isInfix⟩
          · rw [hp] at h
            rcases List.mem_cons.mp h with heq | hmem
            · cases heq
            · obtain ⟨kind', body', d', hd', hvalue, hin⟩ :=
                ih s.length (by rw [← hn]; simp) hmem rfl
              exact ⟨kind', body', d', hd', hvalue, hin.trans (List.suffix_cons c s).isInfix⟩

/-- A text that holds no condition is read code point by code point. -/
theorem pieces_of_not_holdsDirective {t : Text} (h : ¬ HoldsDirective t) :
    pieces t = t.map .char := by
  induction t with
  | nil => rfl
  | cons c s ih =>
      rcases pieces_step c s with ⟨kind, word, body, d, rest, hd, hs, _⟩ | ⟨hp, _⟩
      · refine absurd ⟨kind, word, body, d, hd, ?_⟩ h
        rw [hs]
        exact (List.prefix_append d rest).isInfix
      · have hrest : ¬ HoldsDirective s := by
          rintro ⟨kind, word, body, d, hd, hin⟩
          exact h ⟨kind, word, body, d, hd, hin.trans (List.suffix_cons c s).isInfix⟩
        rw [hp, ih hrest]
        rfl

/-- No condition starts at any place that the reading goes over as a single code point, so a text
that is read without conditions holds none. -/
theorem not_holdsDirective_of_countP {t : Text} (h : (pieces t).countP Piece.isDirective = 0) :
    ¬ HoldsDirective t := by
  induction t with
  | nil => exact not_holdsDirective_nil
  | cons c s ih =>
      rcases pieces_step c s with ⟨kind, word, body, d, rest, _, _, hp⟩ | ⟨hp, hnone⟩
      · rw [hp] at h
        simp [Piece.isDirective] at h
      · rintro ⟨kind, word, body, d, hd, hin⟩
        rcases List.infix_cons_iff.mp hin with hprefix | hinside
        · exact hnone kind word body d hd hprefix
        · rw [hp, List.countP_cons] at h
          exact ih (by omega) ⟨kind, word, body, d, hd, hinside⟩

end Agenda.Filter
