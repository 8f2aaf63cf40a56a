import Agenda.Proofs.Text.Trim
import Agenda.Text.Lower

/-!
Lowercasing is idempotent, and it neither makes nor removes blanks or brackets, so it commutes
with trimming. The facts about single code points come from checks on the runs of the table: a
check compares spans, never code points one by one.
-/

namespace Agenda.Text

namespace CaseRun

/-- No image of the first run is a code point that the second run moves: the two spans do not
meet, or both step over every other code point and are out of phase. -/
def settles (run other : CaseRun) : Bool :=
  Nat.blt (run.target + (run.last - run.first)) other.first || Nat.blt other.last run.target ||
    ((Nat.beq run.first run.last || Nat.beq run.step 2) && Nat.beq other.step 2 &&
      Nat.beq ((run.target + other.first) % 2) 1)

/-- The run takes no code point out of the range and brings none into it. -/
def avoids (run : CaseRun) (range : Nat × Nat) : Bool :=
  (Nat.blt range.2 run.first || Nat.blt run.last range.1) &&
    (Nat.blt range.2 run.target || Nat.blt (run.target + (run.last - run.first)) range.1)

/-- Every image of the run is a code point. -/
def isValid (run : CaseRun) : Bool :=
  Nat.blt (run.target + (run.last - run.first)) 0xd800 ||
    (Nat.blt 0xdfff run.target && Nat.blt (run.target + (run.last - run.first)) 0x110000)

/-- Of the code points below 128, the run moves capitals only. -/
def isPlain (run : CaseRun) : Bool :=
  (Nat.ble 0x41 run.first && Nat.ble run.last 0x5a) || Nat.ble 0x80 run.first

/-- The run moves the code point to that image. -/
structure Moves (run : CaseRun) (n m : Nat) : Prop where
  first_le : run.first ≤ n
  le_last : n ≤ run.last
  inPhase : (n - run.first) % run.step = 0
  image : m = run.target + (n - run.first)

theorem mapped_eq_or_moves (runs : List CaseRun) (n : Nat) :
    mapped runs n = n ∨ ∃ run ∈ runs, run.Moves n (mapped runs n) := by
  induction runs with
  | nil => exact Or.inl rfl
  | cons run rest ih =>
      unfold mapped
      by_cases hbelow : n < run.first
      · simp [hbelow]
      by_cases hinside : n ≤ run.last
      · by_cases hphase : (n - run.first) % run.step = 0
        · right
          refine ⟨run, List.mem_cons_self, by omega, hinside, hphase, ?_⟩
          simp [hbelow, hinside, hphase]
        · simp [hbelow, hinside, hphase]
      · simp only [hbelow, hinside, if_false]
        rcases ih with h | ⟨other, hmem, hmoves⟩
        · exact Or.inl h
        · exact Or.inr ⟨other, List.mem_cons_of_mem _ hmem, hmoves⟩

theorem mapped_of_not_moves {runs : List CaseRun} {n : Nat}
    (h : ∀ run ∈ runs, ∀ m, ¬ run.Moves n m) : mapped runs n = n := by
  rcases mapped_eq_or_moves runs n with hfix | ⟨run, hmem, hmoves⟩
  · exact hfix
  · exact absurd hmoves (h run hmem _)

theorem not_moves_image {run other : CaseRun} {n m : Nat} (hsettles : run.settles other = true)
    (hmoves : run.Moves n m) (image : Nat) : ¬ other.Moves m image := by
  intro hother
  obtain ⟨h1, h2, h3, h4⟩ := hmoves
  obtain ⟨g1, g2, g3, _⟩ := hother
  simp only [settles, Bool.or_eq_true, Bool.and_eq_true, Nat.blt_eq, Nat.beq_eq] at hsettles
  rcases hsettles with (habove | hbelow) | ⟨⟨hsingle | hstep, hother2⟩, hparity⟩
  · omega
  · omega
  · rw [hother2] at g3
    omega
  · rw [hstep] at h3
    rw [hother2] at g3
    omega

theorem not_moves_of_avoids {run : CaseRun} {range : Nat × Nat} {n m : Nat}
    (havoids : run.avoids range = true) (hmoves : run.Moves n m) :
    ¬ (range.1 ≤ n ∧ n ≤ range.2) ∧ ¬ (range.1 ≤ m ∧ m ≤ range.2) := by
  obtain ⟨h1, h2, _, h4⟩ := hmoves
  simp only [avoids, Bool.and_eq_true, Bool.or_eq_true, Nat.blt_eq] at havoids
  omega

end CaseRun

open CaseRun

/-- The ranges that lowercasing leaves alone: the blanks, the closing bracket, and the one code
point whose lowercase has two. -/
def stillRanges : List (Nat × Nat) := (0x5d, 0x5d) :: (0x130, 0x130) :: blankRanges

/-- The run passes every check against the rest of the table. -/
def CaseRun.isSound (run : CaseRun) : Bool :=
  lowerRuns.all run.settles && stillRanges.all run.avoids && run.isValid && run.isPlain

private theorem lowerRuns_isSound : lowerRuns.all isSound = true := by decide +kernel

namespace CaseRun

variable {run : CaseRun}

private theorem isSound_of_mem (h : run ∈ lowerRuns) :
    ((lowerRuns.all run.settles = true ∧ stillRanges.all run.avoids = true) ∧
      run.isValid = true) ∧ run.isPlain = true := by
  have hsound := List.all_eq_true.mp lowerRuns_isSound run h
  simpa only [isSound, Bool.and_eq_true] using hsound

theorem settles_of_mem {other : CaseRun} (h : run ∈ lowerRuns) (hother : other ∈ lowerRuns) :
    run.settles other = true :=
  List.all_eq_true.mp (isSound_of_mem h).1.1.1 other hother

theorem avoids_of_mem {range : Nat × Nat} (h : run ∈ lowerRuns) (hrange : range ∈ stillRanges) :
    run.avoids range = true :=
  List.all_eq_true.mp (isSound_of_mem h).1.1.2 range hrange

theorem isValid_of_mem (h : run ∈ lowerRuns) : run.isValid = true :=
  (isSound_of_mem h).1.2

theorem isPlain_of_mem (h : run ∈ lowerRuns) : run.isPlain = true :=
  (isSound_of_mem h).2

end CaseRun

theorem mapped_plain {n : Nat} (h : n < 0x80) (hcapital : ¬ (0x41 ≤ n ∧ n ≤ 0x5a)) :
    mapped lowerRuns n = n := by
  apply mapped_of_not_moves
  rintro run hmem m ⟨h1, h2, _, _⟩
  have hplain := isPlain_of_mem hmem
  simp only [isPlain, Bool.or_eq_true, Bool.and_eq_true, Nat.ble_eq] at hplain
  omega

theorem mapped_mapped (n : Nat) :
    mapped lowerRuns (mapped lowerRuns n) = mapped lowerRuns n := by
  rcases mapped_eq_or_moves lowerRuns n with hfix | ⟨run, hmem, hmoves⟩
  · rw [hfix, hfix]
  · apply mapped_of_not_moves
    intro other hother image
    exact not_moves_image (settles_of_mem hmem hother) hmoves image

/-- Both the code point and its image lie in a range that is left alone, and then they are equal,
or neither does. -/
theorem mapped_still {range : Nat × Nat} (hrange : range ∈ stillRanges) (n : Nat)
    (hin : range.1 ≤ n ∧ n ≤ range.2 ∨
      range.1 ≤ mapped lowerRuns n ∧ mapped lowerRuns n ≤ range.2) :
    mapped lowerRuns n = n := by
  rcases mapped_eq_or_moves lowerRuns n with hfix | ⟨run, hmem, hmoves⟩
  · exact hfix
  · have hnot := not_moves_of_avoids (avoids_of_mem hmem hrange) hmoves
    exact absurd hin (not_or.mpr hnot)

theorem exists_range_of_covers {ranges : List (Nat × Nat)} {n : Nat}
    (h : covers ranges n = true) : ∃ r ∈ ranges, r.1 ≤ n ∧ n ≤ r.2 := by
  induction ranges with
  | nil => cases h
  | cons range rest ih =>
      simp only [covers, Bool.and_eq_true, Bool.or_eq_true, decide_eq_true_eq] at h
      rcases h with ⟨hfirst, hlast | hrest⟩
      · exact ⟨range, List.mem_cons_self, hfirst, hlast⟩
      · obtain ⟨r, hmem, hr⟩ := ih hrest
        exact ⟨r, List.mem_cons_of_mem _ hmem, hr⟩

private theorem isValidChar_mapped (c : Char) : (mapped lowerRuns c.toNat).isValidChar := by
  rcases mapped_eq_or_moves lowerRuns c.toNat with hfix | ⟨run, hmem, hmoves⟩
  · rw [hfix]
    exact c.valid
  · have hvalid := isValid_of_mem hmem
    simp only [isValid, Bool.or_eq_true, Bool.and_eq_true, Nat.blt_eq] at hvalid
    obtain ⟨h1, h2, _, h4⟩ := hmoves
    unfold Nat.isValidChar
    omega

theorem toNat_ofNat_mapped (c : Char) :
    (Char.ofNat (mapped lowerRuns c.toNat)).toNat = mapped lowerRuns c.toNat := by
  rw [Char.toNat_ofNat, if_pos (isValidChar_mapped c)]

theorem toNat_inj {c d : Char} (h : c.toNat = d.toNat) : c = d := by
  rw [← Char.ofNat_toNat c, h, Char.ofNat_toNat]

private theorem lowerChar_of_ne {c : Char} (h : c ≠ '\u0130') :
    lowerChar c = [Char.ofNat (mapped lowerRuns c.toNat)] := by
  simp [lowerChar, h]

private theorem mem_lowerChar_dotted {d : Char} (h : d ∈ lowerChar '\u0130') :
    d = 'i' ∨ d = '\u0307' := by
  have hlower : lowerChar '\u0130' = ['i', '\u0307'] := rfl
  rw [hlower] at h
  simpa using h

theorem lowerChar_letters :
    (lowerChar 'i' = ['i'] ∧ lowerChar '\u0307' = ['\u0307']) ∧
      lowerChar 'σ' = ['σ'] ∧ lowerChar 'ς' = ['ς'] ∧ lowerChar 'Σ' = ['σ'] := by
  decide

private theorem lowerChar_fixed {c : Char} (h : c ≠ '\u0130')
    (hfix : mapped lowerRuns c.toNat = c.toNat) : lowerChar c = [c] := by
  rw [lowerChar_of_ne h, hfix, Char.ofNat_toNat]

private theorem ne_dotted_of_mapped {c d : Char} (hc : c ≠ '\u0130')
    (hd : d.toNat = mapped lowerRuns c.toNat) : d ≠ '\u0130' := by
  rintro rfl
  have hfix : mapped lowerRuns c.toNat = c.toNat :=
    mapped_still (show (0x130, 0x130) ∈ stillRanges by decide) c.toNat
      (Or.inr (by rw [← hd]; decide))
  exact hc (toNat_inj (by rw [← hfix, ← hd]))

/-- What a lowercase consists of is its own lowercase. -/
theorem lowerChar_of_mem {c d : Char} (h : d ∈ lowerChar c) : lowerChar d = [d] := by
  by_cases hc : c = '\u0130'
  · subst hc
    rcases mem_lowerChar_dotted h with rfl | rfl
    · exact lowerChar_letters.1.1
    · exact lowerChar_letters.1.2
  · rw [lowerChar_of_ne hc, List.mem_singleton] at h
    have hd : d.toNat = mapped lowerRuns c.toNat := by rw [h, toNat_ofNat_mapped]
    apply lowerChar_fixed (ne_dotted_of_mapped hc hd)
    rw [hd, mapped_mapped]

/-- A code point of a range that is left alone occurs in a lowercase only as itself. -/
private theorem eq_of_mem_lowerChar {range : Nat × Nat} (hrange : range ∈ stillRanges)
    {c d : Char} (hc : c ≠ '\u0130') (h : d ∈ lowerChar c)
    (hin : range.1 ≤ d.toNat ∧ d.toNat ≤ range.2) : d = c := by
  rw [lowerChar_of_ne hc, List.mem_singleton] at h
  have hd : d.toNat = mapped lowerRuns c.toNat := by rw [h, toNat_ofNat_mapped]
  have hfix := mapped_still hrange c.toNat (Or.inr (by rw [← hd]; exact hin))
  exact toNat_inj (by rw [hd, hfix])

private theorem mem_stillRanges_of_isBlank {c : Char} (h : isBlank c = true) :
    ∃ range ∈ stillRanges, range.1 ≤ c.toNat ∧ c.toNat ≤ range.2 := by
  obtain ⟨r, hmem, hr⟩ := exists_range_of_covers h
  exact ⟨r, by simp [stillRanges, hmem], hr⟩

private theorem ne_dotted_of_isBlank {c : Char} (h : isBlank c = true) : c ≠ '\u0130' := by
  rintro rfl
  revert h
  decide

theorem lowerChar_of_isBlank {c : Char} (h : isBlank c = true) : lowerChar c = [c] := by
  obtain ⟨range, hrange, hin⟩ := mem_stillRanges_of_isBlank h
  exact lowerChar_fixed (ne_dotted_of_isBlank h) (mapped_still hrange c.toNat (Or.inl hin))

private theorem ne_dotted_of_plain {c : Char} (h : c.toNat < 0x80) : c ≠ '\u0130' := by
  rintro rfl
  revert h
  decide

theorem lowerChar_plain {c : Char} (h : c.toNat < 0x80)
    (hcapital : ¬ (0x41 ≤ c.toNat ∧ c.toNat ≤ 0x5a)) : lowerChar c = [c] :=
  lowerChar_fixed (ne_dotted_of_plain h) (mapped_plain h hcapital)

theorem foldChar_plain {c : Char} (h : c.toNat < 0x80)
    (hcapital : ¬ (0x41 ≤ c.toNat ∧ c.toNat ≤ 0x5a)) : foldChar c = c := by
  simp [foldChar, ne_dotted_of_plain h, mapped_plain h hcapital]

theorem foldChar_of_isBlank {c : Char} (h : isBlank c = true) : foldChar c = c := by
  have hc := ne_dotted_of_isBlank h
  have hlower := lowerChar_of_isBlank h
  rw [lowerChar_of_ne hc] at hlower
  simpa [foldChar, hc] using hlower

theorem isBlank_of_mem_lowerChar {c d : Char} (h : d ∈ lowerChar c) : isBlank d = isBlank c := by
  by_cases hc : c = '\u0130'
  · subst hc
    rcases mem_lowerChar_dotted h with rfl | rfl
    · decide
    · decide
  by_cases hblank : isBlank d = true
  · obtain ⟨range, hrange, hin⟩ := mem_stillRanges_of_isBlank hblank
    rw [eq_of_mem_lowerChar hrange hc h hin]
  by_cases hblank' : isBlank c = true
  · rw [lowerChar_of_isBlank hblank', List.mem_singleton] at h
    rw [h]
  · rw [Bool.not_eq_true] at hblank hblank'
    rw [hblank, hblank']

theorem bracket_mem_lowerChar_iff (c : Char) : ']' ∈ lowerChar c ↔ c = ']' := by
  constructor
  · intro h
    by_cases hc : c = '\u0130'
    · subst hc
      revert h
      decide
    · exact (eq_of_mem_lowerChar (show (0x5d, 0x5d) ∈ stillRanges by decide) hc h (by decide)).symm
  · rintro rfl
    rw [lowerChar_fixed (by decide) (mapped_plain (by decide) (by decide))]
    exact List.mem_singleton_self _

/-- A piece of the lowercase of a text: that of one of its code points, or a small sigma. -/
private theorem mem_lowerFrom {afterCased : Bool} {t : Text} {d : Char}
    (h : d ∈ lowerFrom afterCased t) :
    ∃ c ∈ t, (c = 'Σ' ∧ (d = 'σ' ∨ d = 'ς')) ∨ (c ≠ 'Σ' ∧ d ∈ lowerChar c) := by
  induction t generalizing afterCased with
  | nil => cases h
  | cons c rest ih =>
      rw [lowerFrom] at h
      rcases List.mem_append.mp h with hhere | hrest
      · refine ⟨c, List.mem_cons_self, ?_⟩
        by_cases hc : c = 'Σ'
        · left
          refine ⟨hc, ?_⟩
          rw [if_pos hc, List.mem_singleton] at hhere
          rw [hhere]
          split
          · exact Or.inr rfl
          · exact Or.inl rfl
        · rw [if_neg hc] at hhere
          exact Or.inr ⟨hc, hhere⟩
      · obtain ⟨c', hmem, hc'⟩ := ih hrest
        exact ⟨c', List.mem_cons_of_mem _ hmem, hc'⟩

theorem lowerFrom_eq_self {afterCased : Bool} {t : Text}
    (h : ∀ c ∈ t, c ≠ 'Σ' ∧ lowerChar c = [c]) : lowerFrom afterCased t = t := by
  induction t generalizing afterCased with
  | nil => rfl
  | cons c rest ih =>
      obtain ⟨hsigma, hfix⟩ := h c List.mem_cons_self
      have hrest := fun b => @ih b fun d hd => h d (List.mem_cons_of_mem _ hd)
      rw [lowerFrom]
      simp [hsigma, hfix, hrest]

theorem lower_lower (t : Text) : lower (lower t) = lower t := by
  apply lowerFrom_eq_self
  intro d hd
  have hfix : lowerChar d = [d] := by
    obtain ⟨c, _, ⟨_, rfl | rfl⟩ | ⟨_, hmem⟩⟩ := mem_lowerFrom hd
    · exact lowerChar_letters.2.1
    · exact lowerChar_letters.2.2.1
    · exact lowerChar_of_mem hmem
  refine ⟨?_, hfix⟩
  rintro rfl
  rw [lowerChar_letters.2.2.2] at hfix
  cases hfix

/-- Lowercasing keeps out closing brackets. -/
theorem bracket_not_mem_lower {t : Text} (h : ']' ∉ t) : ']' ∉ lower t := by
  intro hmem
  obtain ⟨c, hc, ⟨_, h1 | h1⟩ | ⟨_, h1⟩⟩ := mem_lowerFrom hmem
  · revert h1
    decide
  · revert h1
    decide
  · rw [bracket_mem_lowerChar_iff] at h1
    exact h (h1 ▸ hc)

/-- No range of the table holds a blank. -/
def HoldsNoBlank (ranges : List (Nat × Nat)) : Prop :=
  (blankRanges.all fun r => ranges.all fun q => Nat.blt r.2 q.1 || Nat.blt q.2 r.1) = true

instance (ranges : List (Nat × Nat)) : Decidable (HoldsNoBlank ranges) :=
  inferInstanceAs (Decidable (_ = true))

theorem not_covers_of_isBlank {ranges : List (Nat × Nat)} (hranges : HoldsNoBlank ranges) {c : Char}
    (h : isBlank c = true) : covers ranges c.toNat = false := by
  by_contra hne
  rw [Bool.not_eq_false] at hne
  obtain ⟨q, hq, hcq⟩ := exists_range_of_covers hne
  obtain ⟨r, hr, hcr⟩ := exists_range_of_covers h
  have hapart := List.all_eq_true.mp (List.all_eq_true.mp hranges r hr) q hq
  simp only [Bool.or_eq_true, Nat.blt_eq] at hapart
  omega

/-- Blanks have no case. -/
private theorem not_cased_of_isBlank {c : Char} (h : isBlank c = true) :
    covers casedRanges c.toNat = false :=
  not_covers_of_isBlank (by decide) h

/-- The rule for the final sigma does not look past blanks. -/
private theorem not_ignorable_of_isBlank {c : Char} (h : isBlank c = true) :
    covers ignorableRanges c.toNat = false :=
  not_covers_of_isBlank (by decide +kernel) h

private theorem sigma_not_isBlank : isBlank 'Σ' = false := by decide

theorem lowerFrom_cons_of_isBlank {afterCased : Bool} {c : Char} (h : isBlank c = true)
    (t : Text) : lowerFrom afterCased (c :: t) = c :: lower t := by
  have hsigma : c ≠ 'Σ' := by
    rintro rfl
    rw [sigma_not_isBlank] at h
    cases h
  rw [lowerFrom]
  simp [hsigma, lowerChar_of_isBlank h, not_ignorable_of_isBlank h, not_cased_of_isBlank h,
    lower_char]

theorem lower_allBlank_append {a : Text} (ha : AllBlank a) (t : Text) :
    lower (a ++ t) = a ++ lower t := by
  induction a with
  | nil => rfl
  | cons c rest ih =>
      have hrest : AllBlank rest := fun d hd => ha d (List.mem_cons_of_mem _ hd)
      rw [List.cons_append, lower_char, lowerFrom_cons_of_isBlank (ha c List.mem_cons_self), ih hrest]
      rfl

/-- A word that ends before blanks ends the text as far as the final sigma is concerned. -/
private theorem startsCased_append_allBlank {b : Text} (hb : AllBlank b) (t : Text) :
    startsCased (t ++ b) = startsCased t := by
  unfold startsCased
  rw [List.dropWhile_append]
  by_cases hempty : t.dropWhile (fun c => covers ignorableRanges c.toNat) = []
  · simp only [hempty, List.isEmpty_nil, if_true]
    cases b with
    | nil => rfl
    | cons d rest =>
        have hd := hb d List.mem_cons_self
        simp [not_ignorable_of_isBlank hd, not_cased_of_isBlank hd]
  · cases hdrop : t.dropWhile (fun c => covers ignorableRanges c.toNat) with
    | nil => exact absurd hdrop hempty
    | cons d rest => simp

theorem lowerFrom_append_allBlank {b : Text} (hb : AllBlank b) (afterCased : Bool) (t : Text) :
    lowerFrom afterCased (t ++ b) = lowerFrom afterCased t ++ b := by
  induction t generalizing afterCased with
  | nil =>
      cases b with
      | nil => rfl
      | cons d rest =>
          have hrest : AllBlank rest := fun e he => hb e (List.mem_cons_of_mem _ he)
          rw [List.nil_append, lowerFrom_cons_of_isBlank (hb d List.mem_cons_self)]
          have hlower := lower_allBlank_append hrest []
          rw [List.append_nil] at hlower
          rw [hlower]
          simp [lower_char, lowerFrom]
  | cons c rest ih =>
      rw [List.cons_append, lowerFrom, lowerFrom, startsCased_append_allBlank hb, ih,
        List.append_assoc]

private theorem lowerFrom_pieces (afterCased : Bool) (c : Char) (rest : Text) :
    ∃ piece after, lowerFrom afterCased (c :: rest) = piece ++ lowerFrom after rest ∧
      piece ≠ [] ∧ ∀ d ∈ piece, isBlank d = isBlank c := by
  by_cases hc : c = 'Σ'
  · subst hc
    refine ⟨_, _, rfl, ?_, ?_⟩
    · simp
    · intro d hd
      rw [if_pos rfl, List.mem_singleton] at hd
      rw [hd]
      split <;> decide
  · refine ⟨_, _, rfl, ?_, ?_⟩
    · rw [if_neg hc]
      unfold lowerChar
      split <;> simp
    · intro d hd
      rw [if_neg hc] at hd
      exact isBlank_of_mem_lowerChar hd

theorem lower_eq_nil_iff (t : Text) : lower t = [] ↔ t = [] := by
  constructor
  · intro h
    cases t with
    | nil => rfl
    | cons c rest =>
        obtain ⟨piece, after, hpieces, hne, _⟩ := lowerFrom_pieces false c rest
        rw [lower_char, hpieces, List.append_eq_nil_iff] at h
        exact absurd h.1 hne
  · rintro rfl
    rfl

/-- The lowercase of a text ends with a piece of its last code point. -/
private theorem lowerFrom_concat_pieces (afterCased : Bool) (init : Text) (c : Char) :
    ∃ before piece, lowerFrom afterCased (init ++ [c]) = before ++ piece ∧
      piece ≠ [] ∧ ∀ e ∈ piece, isBlank e = isBlank c := by
  induction init generalizing afterCased with
  | nil =>
      obtain ⟨piece, after, hpieces, hne, hblank⟩ := lowerFrom_pieces afterCased c []
      exact ⟨[], piece, by simpa [lowerFrom] using hpieces, hne, hblank⟩
  | cons a rest ih =>
      obtain ⟨first, after, hfirst, _, _⟩ := lowerFrom_pieces afterCased a (rest ++ [c])
      obtain ⟨before, piece, hrest, hne, hblank⟩ := ih after
      refine ⟨first ++ before, piece, ?_, hne, hblank⟩
      rw [List.cons_append, hfirst, hrest, List.append_assoc]

/-- The lowercase of a text starts with a blank if the text does. -/
theorem head?_lower (t : Text) : (lower t).head?.map isBlank = t.head?.map isBlank := by
  cases t with
  | nil => rfl
  | cons c rest =>
      obtain ⟨piece, after, hpieces, hne, hblank⟩ := lowerFrom_pieces false c rest
      obtain ⟨e, tail, rfl⟩ := List.exists_cons_of_ne_nil hne
      rw [lower_char, hpieces]
      exact congrArg some (hblank e List.mem_cons_self)

/-- The lowercase of a text ends with a blank if the text does. -/
theorem getLast?_lower (t : Text) : (lower t).getLast?.map isBlank = t.getLast?.map isBlank := by
  rcases List.eq_nil_or_concat' t with rfl | ⟨init, c, rfl⟩
  · rfl
  · obtain ⟨before, piece, hsplit, hne, hblank⟩ := lowerFrom_concat_pieces false init c
    obtain ⟨most, e, rfl⟩ := (List.eq_nil_or_concat' piece).resolve_left hne
    rw [lower_char, hsplit, ← List.append_assoc, List.getLast?_concat, List.getLast?_concat]
    exact congrArg some (hblank e (by simp))

/-- Trimming and lowercasing can be done in either order. -/
theorem trim_lower (t : Text) : trim (lower t) = lower (trim t) := by
  obtain ⟨a, b, ha, hb, htight, ht⟩ := trim_split t
  have hlower : lower t = a ++ lower (trim t) ++ b := by
    conv_lhs => rw [ht]
    rw [List.append_assoc, lower_allBlank_append ha, lower_char, lowerFrom_append_allBlank hb]
    simp [lower_char]
  rw [hlower]
  exact trim_of_split ha (htight.of_ends (head?_lower _) (getLast?_lower _)) hb

end Agenda.Text
