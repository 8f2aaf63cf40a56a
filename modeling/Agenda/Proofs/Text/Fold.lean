import Agenda.Proofs.Text.Lower
import Agenda.Text.Letter

/-!
Lowercases that start with plain code points. Such a beginning tells how the text itself starts,
code point by code point: the rule for sigmas and the letter whose lowercase has two code points
have no part in it. Only letters come to a plain code point that they are not themselves.
-/

namespace Agenda.Text

open CaseRun

/-- Only code points of the first 128. -/
def AllPlain (t : Text) : Prop := ∀ c ∈ t, c.toNat < 0x80

instance (t : Text) : Decidable (AllPlain t) :=
  decidable_of_iff (t.all (fun c => Nat.blt c.toNat 0x80) = true) (by simp [AllPlain])

theorem AllPlain.of_cons {c : Char} {t : Text} (h : AllPlain (c :: t)) :
    c.toNat < 0x80 ∧ AllPlain t :=
  ⟨h c List.mem_cons_self, fun d hd => h d (List.mem_cons_of_mem _ hd)⟩

/-- How the lowercase of a text starts: with its first code point folded, or with a small sigma, or
with the two code points of the one letter that has two. -/
theorem lowerFrom_cons_cases (afterCased : Bool) (c : Char) (rest : Text) :
    (lowerChar c = [foldChar c] ∧
        ∃ cased, lowerFrom afterCased (c :: rest) = foldChar c :: lowerFrom cased rest) ∨
      (c = 'Σ' ∧ ∃ d more, ¬ d.toNat < 0x80 ∧ lowerFrom afterCased (c :: rest) = d :: more) ∨
      (c = '\u0130' ∧ ∃ more, lowerFrom afterCased (c :: rest) = 'i' :: '\u0307' :: more) := by
  rw [lowerFrom]
  by_cases hsigma : c = 'Σ'
  · rw [if_pos hsigma, List.singleton_append]
    refine Or.inr (Or.inl ⟨hsigma, _, _, ?_, rfl⟩)
    split <;> decide
  rw [if_neg hsigma]
  by_cases hdotted : c = '\u0130'
  · have hlower : lowerChar c = ['i', '\u0307'] := by
      rw [hdotted]
      rfl
    rw [hlower]
    exact Or.inr (Or.inr ⟨hdotted, _, rfl⟩)
  · have hlower : lowerChar c = [foldChar c] := by
      rw [lowerChar, foldChar, if_neg hdotted, if_neg hdotted]
    rw [hlower]
    exact Or.inl ⟨rfl, _, rfl⟩

/-- The plain beginning of a lowercase is the beginning of the text, each code point folded. -/
theorem prefix_fold_of_prefix_lowerFrom {w t : Text} {afterCased : Bool} (hplain : AllPlain w)
    (h : w <+: lowerFrom afterCased t) : w <+: t.map foldChar := by
  induction t generalizing w afterCased with
  | nil => exact h
  | cons c rest ih =>
      cases w with
      | nil => exact List.nil_prefix
      | cons d more =>
          obtain ⟨hd, hmore⟩ := hplain.of_cons
          rw [List.map_cons, List.cons_prefix_cons]
          rcases lowerFrom_cons_cases afterCased c rest with
            ⟨_, cased, heq⟩ | ⟨_, small, _, hsmall, heq⟩ | ⟨rfl, _, heq⟩
          · rw [heq, List.cons_prefix_cons] at h
            exact ⟨h.1, ih hmore h.2⟩
          · rw [heq, List.cons_prefix_cons] at h
            rw [h.1] at hd
            exact absurd hd hsmall
          · -- the second code point of its lowercase is a mark
            rw [heq, List.cons_prefix_cons] at h
            refine ⟨by rw [h.1]; rfl, ?_⟩
            cases more with
            | nil => exact List.nil_prefix
            | cons e _ =>
                have he := hmore.of_cons.1
                rw [(List.cons_prefix_cons.mp h.2).1] at he
                exact absurd he (by decide)

theorem prefix_fold_of_prefix_lower {w t : Text} (hplain : AllPlain w) (h : w <+: lower t) :
    w <+: t.map foldChar :=
  prefix_fold_of_prefix_lowerFrom hplain h

/-- A plain beginning that is in lowercase is kept. -/
theorem prefix_lowerFrom_of_prefix {w t : Text} {afterCased : Bool} (hplain : AllPlain w)
    (hsmall : ∀ c ∈ w, lowerChar c = [c]) (h : w <+: t) : w <+: lowerFrom afterCased t := by
  induction w generalizing t afterCased with
  | nil => exact List.nil_prefix
  | cons c more ih =>
      obtain ⟨hc, hmore⟩ := hplain.of_cons
      have hsigma : c ≠ 'Σ' := by
        rintro rfl
        exact absurd hc (by decide)
      obtain ⟨rest, rfl⟩ := h
      rw [List.cons_append, lowerFrom, if_neg hsigma, hsmall c List.mem_cons_self,
        List.singleton_append, List.cons_prefix_cons]
      exact ⟨rfl, ih hmore (fun d hd => hsmall d (List.mem_cons_of_mem _ hd))
        (List.prefix_append more rest)⟩

/-- A text has no fewer code points than the plain beginning of its lowercase. -/
theorem length_le_of_prefix_lower {w t : Text} (hplain : AllPlain w) (h : w <+: lower t) :
    w.length ≤ t.length := by
  simpa using (prefix_fold_of_prefix_lower hplain h).length_le

/-- A lowercase that is plain as a whole comes code point by code point. -/
theorem lowerFrom_eq_iff_of_plain {w t : Text} {afterCased : Bool} (hplain : AllPlain w) :
    lowerFrom afterCased t = w ↔ List.Forall₂ (fun d c => lowerChar c = [d]) w t := by
  induction t generalizing w afterCased with
  | nil => simp [lowerFrom, eq_comm]
  | cons c rest ih =>
      cases w with
      | nil =>
          refine iff_of_false ?_ ?_
          · rcases lowerFrom_cons_cases afterCased c rest with
              ⟨_, _, heq⟩ | ⟨_, _, _, _, heq⟩ | ⟨_, _, heq⟩ <;> simp [heq]
          · rintro ⟨⟩
      | cons d more =>
          obtain ⟨hd, hmore⟩ := hplain.of_cons
          rw [List.forall₂_cons]
          rcases lowerFrom_cons_cases afterCased c rest with
            ⟨hlower, cased, heq⟩ | ⟨rfl, small, _, hsmall, heq⟩ | ⟨rfl, _, heq⟩
          · rw [heq, hlower, List.cons.injEq, ih hmore, List.cons.injEq, and_iff_left rfl]
          · -- neither small sigma is plain
            rw [heq, lowerChar_letters.2.2.2]
            refine iff_of_false ?_ ?_
            · rintro ⟨⟩
              exact hsmall hd
            · rintro ⟨⟨⟩, _⟩
              exact absurd hd (by decide)
          · -- nor is the mark in the lowercase that has two code points
            rw [heq]
            refine iff_of_false ?_ ?_
            · rintro ⟨⟩
              exact absurd hmore.of_cons.1 (by decide)
            · rintro ⟨⟨⟩, _⟩

theorem lower_eq_iff_of_plain {w t : Text} (hplain : AllPlain w) :
    lower t = w ↔ List.Forall₂ (fun d c => lowerChar c = [d]) w t :=
  lowerFrom_eq_iff_of_plain hplain

theorem prefix_lower_of_prefix {w t : Text} (hplain : AllPlain w) (hsmall : lower w = w)
    (h : w <+: t) : w <+: lower t :=
  prefix_lowerFrom_of_prefix hplain (List.forall₂_same.mp ((lower_eq_iff_of_plain hplain).mp hsmall))
    h

/-- Every code point that the run moves is a letter. -/
private def movesLetters (run : CaseRun) : Bool :=
  (List.range (run.last + 1 - run.first)).all fun i => covers letterRanges (run.first + i)

private theorem lowerRuns_letters :
    lowerRuns.all (fun run => Nat.ble 0x80 run.target || movesLetters run) = true := by
  decide +kernel

/-- What is no letter comes to a plain code point only if it is that one itself. -/
theorem foldChar_of_not_letter {c : Char} (hletter : isLetter c = false)
    (hplain : (foldChar c).toNat < 0x80) : foldChar c = c := by
  have hdotted : c ≠ '\u0130' := by
    rintro rfl
    exact absurd hletter (by decide)
  rw [foldChar, if_neg hdotted] at hplain ⊢
  rw [toNat_ofNat_mapped] at hplain
  rcases mapped_eq_or_moves lowerRuns c.toNat with hfix | ⟨run, hmem, hmoves⟩
  · rw [hfix, Char.ofNat_toNat]
  · obtain ⟨hfirst, hlast, _, himage⟩ := hmoves
    have hrun := List.all_eq_true.mp lowerRuns_letters run hmem
    rw [Bool.or_eq_true, Nat.ble_eq] at hrun
    rcases hrun with htarget | hletters
    · omega
    · have hcovered := List.all_eq_true.mp hletters (c.toNat - run.first)
        (List.mem_range.mpr (by omega))
      rw [Nat.add_sub_cancel' hfirst] at hcovered
      exact absurd (hletter.symm.trans hcovered) (by decide)

end Agenda.Text
