import Agenda.Proofs.Text.Case
import Agenda.Proofs.Text.Fold
import Mathlib

/-!
How texts spell words of small plain letters. Only a capital of `A` to `Z` is lowercased to another
plain code point, apart from the Kelvin sign, which comes to `k`. So a text has such a word for its
lowercase if it is that word with some letters capital. The beginning of a lowercase tells as much,
but for the dotted capital I, whose lowercase starts with an `i`.
-/

namespace Agenda.Text

open CaseRun

/-- The capital I with a dot, the one letter whose lowercase has two code points. -/
def dottedI : Char := '\u0130'

/-- A word in lowercase that is made of plain code points other than `k`. -/
def IsSmall (w : Text) : Prop := lower w = w ∧ AllPlain w ∧ 'k' ∉ w

instance (w : Text) : Decidable (IsSmall w) :=
  inferInstanceAs (Decidable (lower w = w ∧ AllPlain w ∧ 'k' ∉ w))

/-- The run has plain images of capitals only, or `k` alone. -/
private def isPlainOnto (run : CaseRun) : Bool :=
  Nat.ble 0x80 run.target || (Nat.ble 0x41 run.first && Nat.ble run.last 0x5a) ||
    (Nat.beq run.first run.last && Nat.beq run.target 0x6b)

private theorem lowerRuns_plainOnto : lowerRuns.all isPlainOnto = true := by decide +kernel

private theorem capitals_toLower : (capitals.all fun c => decide (c.toLower ≠ c)) = true := by
  decide

/-- A code point is lowercased to a plain one other than `k` if it is that one or its capital. -/
theorem toLower_of_lowerChar {d c : Char} (hplain : d.toNat < 0x80) (hk : d ≠ 'k')
    (h : lowerChar c = [d]) : c.toLower = d := by
  have hcapital : lowerChar c = [c.toLower] ∨ c.toLower = c :=
    related_toLower (r := fun d c => lowerChar c = [d] ∨ d = c) (fun _ => Or.inr rfl)
      (by decide) c
  rcases hcapital with hlower | hsame
  · exact List.singleton_inj.mp (hlower.symm.trans h)
  have hdotted : c ≠ '\u0130' := by
    rintro rfl
    cases h
  rw [lowerChar, if_neg hdotted, List.singleton_inj] at h
  have himage : d.toNat = mapped lowerRuns c.toNat := by rw [← h, toNat_ofNat_mapped]
  rcases mapped_eq_or_moves lowerRuns c.toNat with hfix | ⟨run, hmem, hfirst, hlast, _, hmoved⟩
  · rw [hsame]
    exact toNat_inj (by rw [himage, hfix])
  · have honto := List.all_eq_true.mp lowerRuns_plainOnto run hmem
    simp only [isPlainOnto, Bool.or_eq_true, Bool.and_eq_true, Nat.ble_eq, Nat.beq_eq] at honto
    rcases honto with (htarget | hcapitals) | ⟨hsingle, htarget⟩
    · omega
    · have hmoved := List.all_eq_true.mp capitals_toLower c (mem_capitals (by omega))
      exact absurd hsame (of_decide_eq_true hmoved)
    · exact absurd (toNat_inj (by rw [himage, hmoved, show 'k'.toNat = 0x6b from rfl]; omega)) hk

theorem lowerChar_of_plain {c : Char} (h : c.toNat < 0x80) :
    lowerChar c = [c.toLower] ∧ c.toLower.toNat < 0x80 := by
  have hsmall : c.toLower.toNat < 0x80 ∧ ¬ (0x41 ≤ c.toLower.toNat ∧ c.toLower.toNat ≤ 0x5a) := by
    by_cases hcapital : 0x41 ≤ c.toNat ∧ c.toNat ≤ 0x5a
    · have hall : (capitals.all fun d =>
          Nat.blt 0x5a d.toLower.toNat && Nat.blt d.toLower.toNat 0x80) = true := by decide
      have hc := List.all_eq_true.mp hall c (mem_capitals hcapital)
      rw [Bool.and_eq_true, Nat.blt_eq, Nat.blt_eq] at hc
      omega
    · rw [toLower_of_outside hcapital]
      exact ⟨h, hcapital⟩
  refine ⟨?_, hsmall.1⟩
  rw [← (readsAs_toLower c).lower, lowerChar_plain hsmall.1 hsmall.2]

/-- A plain text is lowercased letter by letter. -/
theorem lower_of_plain {t : Text} (h : AllPlain t) :
    lower t = t.map Char.toLower ∧ AllPlain (t.map Char.toLower) := by
  have hplain : AllPlain (t.map Char.toLower) := by
    intro c hc
    obtain ⟨d, hd, rfl⟩ := List.mem_map.mp hc
    exact (lowerChar_of_plain (h d hd)).2
  refine ⟨?_, hplain⟩
  rw [lower_eq_iff_of_plain hplain, List.forall₂_map_left_iff, List.forall₂_same]
  exact fun c hc => (lowerChar_of_plain (h c hc)).1

/-- A text whose lowercase is that of a plain text has as many code points. -/
theorem length_eq_of_lower {t u : Text} (hu : AllPlain u) (h : lower t = lower u) :
    t.length = u.length := by
  obtain ⟨hlower, hplain⟩ := lower_of_plain hu
  rw [hlower, lower_eq_iff_of_plain hplain] at h
  simpa using h.length_eq.symm

namespace IsSmall

variable {w t : Text}

theorem of_cons {d : Char} (h : IsSmall (d :: w)) :
    (lowerChar d = [d] ∧ d.toNat < 0x80 ∧ d ≠ 'k') ∧ IsSmall w := by
  obtain ⟨hlower, hplain, hk⟩ := h
  have hall := (lower_eq_iff_of_plain hplain).mp hlower
  obtain ⟨hd, hmore⟩ := hplain.of_cons
  rw [List.forall₂_cons] at hall
  rw [List.mem_cons, not_or] at hk
  exact ⟨⟨hall.1, hd, Ne.symm hk.1⟩, (lower_eq_iff_of_plain hmore).mpr hall.2, hmore, hk.2⟩

theorem take (h : IsSmall w) (n : Nat) : IsSmall (w.take n) := by
  obtain ⟨hlower, hplain, hk⟩ := h
  have hmore : AllPlain (w.take n) := fun c hc => hplain c (List.mem_of_mem_take hc)
  refine ⟨?_, hmore, fun hc => hk (List.mem_of_mem_take hc)⟩
  rw [lower_eq_iff_of_plain hmore, List.forall₂_same]
  intro c hc
  exact List.forall₂_same.mp ((lower_eq_iff_of_plain hplain).mp hlower) c (List.mem_of_mem_take hc)

end IsSmall

theorem lowerChar_eq_iff {d c : Char} (hsmall : lowerChar d = [d]) (hplain : d.toNat < 0x80)
    (hk : d ≠ 'k') : lowerChar c = [d] ↔ c.toLower = d := by
  refine ⟨toLower_of_lowerChar hplain hk, ?_⟩
  rintro rfl
  rw [← (readsAs_toLower c).lower, hsmall]

/-- A text has a small word for its lowercase if it spells it with any capitals. -/
theorem lower_eq_iff_of_small {w t : Text} (hw : IsSmall w) :
    lower t = w ↔ t.map Char.toLower = w := by
  rw [lower_eq_iff_of_plain hw.2.1]
  induction w generalizing t with
  | nil => simp
  | cons d more ih =>
      obtain ⟨⟨hsmall, hplain, hk⟩, hmore⟩ := hw.of_cons
      cases t with
      | nil => simp
      | cons c rest =>
          rw [List.forall₂_cons, lowerChar_eq_iff hsmall hplain hk, ih hmore, List.map_cons,
            List.cons.injEq]

/-- The text starts with the word in any case, but for a dotted capital I in place of the `i` at the
end of the word. -/
def StartsDotted (w t : Text) : Prop :=
  ∃ front rest, t = front ++ dottedI :: rest ∧ front.map Char.toLower ++ ['i'] = w

theorem startsDotted_cons {w t : Text} {d c : Char} : StartsDotted (d :: w) (c :: t) ↔
    c = dottedI ∧ d = 'i' ∧ w = [] ∨ c.toLower = d ∧ StartsDotted w t := by
  constructor
  · rintro ⟨front, rest, ht, hw⟩
    cases front with
    | nil =>
        cases ht
        cases hw
        exact Or.inl ⟨rfl, rfl, rfl⟩
    | cons e front =>
        rw [List.cons_append, List.cons.injEq] at ht
        rw [List.map_cons, List.cons_append, List.cons.injEq] at hw
        rw [ht.1]
        exact Or.inr ⟨hw.1, front, rest, ht.2, hw.2⟩
  · rintro (⟨rfl, rfl, rfl⟩ | ⟨rfl, front, rest, rfl, rfl⟩)
    · exact ⟨[], t, rfl, rfl⟩
    · exact ⟨c :: front, rest, rfl, rfl⟩

private theorem prefix_lowerFrom_iff {w t : Text} {afterCased : Bool} (hw : IsSmall w) :
    w <+: lowerFrom afterCased t ↔ w <+: t.map Char.toLower ∨ StartsDotted w t := by
  induction t generalizing w afterCased with
  | nil => simp [lowerFrom, StartsDotted]
  | cons c rest ih =>
      cases w with
      | nil => simp
      | cons d more =>
          obtain ⟨⟨hsmall, hplain, hk⟩, hmore⟩ := hw.of_cons
          have hchar := lowerChar_eq_iff (c := c) hsmall hplain hk
          rw [startsDotted_cons, List.map_cons, List.cons_prefix_cons]
          rcases lowerFrom_cons_cases afterCased c rest with
            ⟨hlower, cased, heq⟩ | ⟨rfl, small, _, hsigma, heq⟩ | ⟨rfl, _, heq⟩
          · have hdotted : c ≠ dottedI := by
              rintro rfl
              cases hlower
            rw [hlower, List.singleton_inj] at hchar
            rw [heq, List.cons_prefix_cons, ih hmore, eq_comm, hchar, eq_comm (a := d)]
            simp only [hdotted, false_and, false_or, and_or_left]
          · -- neither small sigma is plain, nor is the capital
            have hd : 'Σ'.toLower ≠ d := by
              rintro rfl
              exact absurd hplain (by decide)
            have hne : d ≠ small := by
              rintro rfl
              exact hsigma hplain
            have hcapital : 'Σ' ≠ dottedI := by decide
            rw [heq, List.cons_prefix_cons]
            simp only [hne, hd, hd.symm, hcapital, false_and, or_self]
          · -- the mark in the lowercase is not plain
            have hd : dottedI.toLower ≠ d := by
              rintro rfl
              exact absurd hplain (by decide)
            have hmark : ∀ u : Text, more <+: '\u0307' :: u ↔ more = [] := by
              intro u
              cases more with
              | nil => simp
              | cons e _ =>
                  refine iff_of_false ?_ (by simp)
                  intro hprefix
                  have he := hmore.2.1.of_cons.1
                  rw [(List.cons_prefix_cons.mp hprefix).1] at he
                  exact absurd he (by decide)
            rw [heq, List.cons_prefix_cons, hmark]
            change _ ↔ d = dottedI.toLower ∧ _ ∨ dottedI = dottedI ∧ _ ∨ dottedI.toLower = d ∧ _
            simp only [hd, hd.symm, false_and, true_and, false_or, or_false]

/-- A lowercase starts with a small word if the text starts with the word in any case, or with a
dotted capital I for the `i` that ends it. -/
theorem prefix_lower_iff {w t : Text} (hw : IsSmall w) :
    w <+: lower t ↔ w <+: t.map Char.toLower ∨ StartsDotted w t :=
  prefix_lowerFrom_iff hw

/-- A text with a dotted capital I for a letter does not start with the word itself. -/
theorem StartsDotted.not_prefix {w t : Text} (h : StartsDotted w t) :
    ¬ w <+: t.map Char.toLower := by
  obtain ⟨front, rest, rfl, rfl⟩ := h
  rw [List.map_append, List.prefix_append_right_inj, List.map_cons, List.cons_prefix_cons]
  exact fun h => absurd h.1 (by decide)

/-- A dotted capital I stands for an `i` of the name, so for none behind the last. -/
theorem StartsDotted.le_of_take {name run : Text} {m n : Nat} (hend : 'i' ∉ name.drop m)
    (hn : n ≤ name.length) (h : StartsDotted (name.take n) run) : n ≤ m := by
  obtain ⟨front, rest, _, hword⟩ := h
  by_contra hlt
  have hlength := congrArg List.length hword
  rw [List.length_append, List.length_map, List.length_take, List.length_singleton] at hlength
  have hmem : 'i' ∈ (name.take n).drop m := by
    rw [← hword, List.drop_append_of_le_length (by rw [List.length_map]; omega)]
    simp
  rw [List.drop_take] at hmem
  exact hend (List.mem_of_mem_take hmem)

/-- Code points that are no letters of `A` to `Z`, capital or small, are spelled in one way. -/
theorem toLower_eq_iff_of_mark {c m : Char} (hm : m ∈ [':', '.', ',']) : c.toLower = m ↔ c = m := by
  have hback : ∀ c : Char, c.toLower = m → c = m := by
    have hall : ∀ c : Char, c.toLower ∈ [':', '.', ','] → c = c.toLower :=
      related_toLower (r := fun d c => d ∈ [':', '.', ','] → c = d) (fun _ _ => rfl) (by decide)
    rintro c rfl
    exact hall c hm
  refine ⟨hback c, ?_⟩
  rintro rfl
  simp only [List.mem_cons, List.not_mem_nil, or_false] at hm
  rcases hm with rfl | rfl | rfl <;> rfl

end Agenda.Text
