import Agenda.Proofs.Text.Lower
import Agenda.Proofs.Text.Numeral
import Agenda.Text.Digit
import Agenda.Text.Letter

/-!
The case of the letters `A` to `Z`. Nothing that the readers of texts ask of a code point tells a
capital of these from its small letter, and the lowercase of a text is the same either way. Texts
that differ in this and in outer blanks only are alike.
-/

namespace Agenda.Text

/-- The letters `A` to `Z`. -/
def capitals : Text := (List.range 26).map fun i => Char.ofNat (0x41 + i)

theorem toLower_of_outside {c : Char} (h : ¬ (0x41 ≤ c.toNat ∧ c.toNat ≤ 0x5a)) :
    c.toLower = c := by
  have houtside : ¬ (c.val ≥ 'A'.val ∧ c.val ≤ 'Z'.val) :=
    fun ⟨hfirst, hlast⟩ => h ⟨UInt32.le_iff_toNat_le.mp hfirst, UInt32.le_iff_toNat_le.mp hlast⟩
  rw [Char.toLower, dif_neg houtside]

theorem toLower_of_isPlainDigit {c : Char} (h : isPlainDigit c = true) : c.toLower = c := by
  have hrange := toNat_of_isPlainDigit h
  exact toLower_of_outside (by omega)

theorem mem_capitals {c : Char} (h : 0x41 ≤ c.toNat ∧ c.toNat ≤ 0x5a) : c ∈ capitals := by
  refine List.mem_map.mpr ⟨c.toNat - 0x41, List.mem_range.mpr (by omega), ?_⟩
  rw [show 0x41 + (c.toNat - 0x41) = c.toNat by omega, Char.ofNat_toNat]

/-- What holds between each capital and its small letter holds between every code point and its
small form, if it holds between a code point and itself. -/
theorem related_toLower {r : Char → Char → Prop} [DecidableRel r] (hrefl : ∀ c, r c c)
    (h : (capitals.all fun c => decide (r c.toLower c)) = true) (c : Char) : r c.toLower c := by
  by_cases hc : 0x41 ≤ c.toNat ∧ c.toNat ≤ 0x5a
  · exact of_decide_eq_true (List.all_eq_true.mp h c (mem_capitals hc))
  · rw [toLower_of_outside hc]
    exact hrefl c

/-- A plain code point beyond the figures. -/
def IsBeyondFigures (c : Char) : Prop := 0x39 < c.toNat ∧ c.toNat < 0x80

instance : DecidablePred IsBeyondFigures := fun c =>
  inferInstanceAs (Decidable (0x39 < c.toNat ∧ c.toNat < 0x80))

private theorem toLower_cases :
    ∀ c : Char, c.toLower = c ∨ IsBeyondFigures c ∧ IsBeyondFigures c.toLower :=
  related_toLower (r := fun d c => d = c ∨ IsBeyondFigures c ∧ IsBeyondFigures d)
    (fun _ => Or.inl rfl) (by decide)

/-- What is the same for all plain code points beyond the figures is the same for every code point
and its small form. -/
theorem apply_toLower {α : Type} {f : Char → α} {a : α} (h : ∀ c, IsBeyondFigures c → f c = a)
    (c : Char) : f c.toLower = f c := by
  rcases toLower_cases c with hsame | ⟨hc, hlower⟩
  · rw [hsame]
  · rw [h c hc, h _ hlower]

/-- The readers of texts find the same in both code points: the classes, what they are folded to,
and their part in the lowercase of a text. -/
structure ReadsAs (c d : Char) : Prop where
  blank : isBlank c = isBlank d
  letter : isLetter c = isLetter d
  digit : isPlainDigit c = isPlainDigit d
  fold : foldChar c = foldChar d
  lower : lowerChar c = lowerChar d
  cased : covers casedRanges c.toNat = covers casedRanges d.toNat
  ignorable : covers ignorableRanges c.toNat = covers ignorableRanges d.toNat
  sigma : decide (c = 'Σ') = decide (d = 'Σ')

theorem ReadsAs.refl (c : Char) : ReadsAs c c := ⟨rfl, rfl, rfl, rfl, rfl, rfl, rfl, rfl⟩

instance : DecidableRel ReadsAs := fun c d =>
  decidable_of_iff
    ((isBlank c = isBlank d ∧ isLetter c = isLetter d ∧ isPlainDigit c = isPlainDigit d) ∧
      (foldChar c = foldChar d ∧ lowerChar c = lowerChar d) ∧
      covers casedRanges c.toNat = covers casedRanges d.toNat ∧
      covers ignorableRanges c.toNat = covers ignorableRanges d.toNat ∧
      decide (c = 'Σ') = decide (d = 'Σ'))
    ⟨fun ⟨⟨hblank, hletter, hdigit⟩, ⟨hfold, hlower⟩, hcased, hignorable, hsigma⟩ =>
        ⟨hblank, hletter, hdigit, hfold, hlower, hcased, hignorable, hsigma⟩,
      fun h => ⟨⟨h.blank, h.letter, h.digit⟩, ⟨h.fold, h.lower⟩, h.cased, h.ignorable, h.sigma⟩⟩

theorem readsAs_toLower : ∀ c : Char, ReadsAs c.toLower c :=
  related_toLower ReadsAs.refl (by decide)

theorem isBlank_toLower (c : Char) : isBlank c.toLower = isBlank c := (readsAs_toLower c).blank

theorem isLetter_toLower (c : Char) : isLetter c.toLower = isLetter c := (readsAs_toLower c).letter

theorem isPlainDigit_toLower (c : Char) : isPlainDigit c.toLower = isPlainDigit c :=
  (readsAs_toLower c).digit

theorem takeWhile_map_toLower {p : Char → Bool} (hp : ∀ c, p c.toLower = p c) (t : Text) :
    (t.map Char.toLower).takeWhile p = (t.takeWhile p).map Char.toLower := by
  rw [List.takeWhile_map]
  exact congrArg (fun q => (t.takeWhile q).map Char.toLower) (funext hp)

theorem dropWhile_map_toLower {p : Char → Bool} (hp : ∀ c, p c.toLower = p c) (t : Text) :
    (t.map Char.toLower).dropWhile p = (t.dropWhile p).map Char.toLower := by
  rw [List.dropWhile_map]
  exact congrArg (fun q => (t.dropWhile q).map Char.toLower) (funext hp)

private theorem startsCased_map_toLower (t : Text) :
    startsCased (t.map Char.toLower) = startsCased t := by
  unfold startsCased
  rw [dropWhile_map_toLower fun c => (readsAs_toLower c).ignorable]
  cases t.dropWhile fun c => covers ignorableRanges c.toNat with
  | nil => rfl
  | cons c rest => exact (readsAs_toLower c).cased

private theorem lowerFrom_map_toLower (afterCased : Bool) (t : Text) :
    lowerFrom afterCased (t.map Char.toLower) = lowerFrom afterCased t := by
  induction t generalizing afterCased with
  | nil => rfl
  | cons c rest ih =>
      have hsame := readsAs_toLower c
      have hsigma : c.toLower = 'Σ' ↔ c = 'Σ' := decide_eq_decide.mp hsame.sigma
      rw [List.map_cons, lowerFrom, lowerFrom, startsCased_map_toLower, hsame.cased,
        hsame.ignorable, hsame.lower, ih]
      simp only [hsigma]

/-- The lowercase of a text does not depend on the case of these letters. -/
theorem lower_map_toLower (t : Text) : lower (t.map Char.toLower) = lower t :=
  lowerFrom_map_toLower false t

theorem trimStart_map_toLower (t : Text) :
    trimStart (t.map Char.toLower) = (trimStart t).map Char.toLower :=
  dropWhile_map_toLower isBlank_toLower t

theorem trimEnd_map_toLower (t : Text) :
    trimEnd (t.map Char.toLower) = (trimEnd t).map Char.toLower := by
  unfold trimEnd
  rw [← List.map_reverse, dropWhile_map_toLower isBlank_toLower, List.map_reverse]

theorem trim_map_toLower (t : Text) : trim (t.map Char.toLower) = (trim t).map Char.toLower := by
  rw [trim, trimStart_map_toLower, trimEnd_map_toLower, trim]

/-- The texts are the same but for outer blanks and the case of the letters `A` to `Z`. -/
def Alike (t t' : Text) : Prop :=
  ∃ a b a' b' core core', ((AllBlank a ∧ AllBlank b) ∧ AllBlank a' ∧ AllBlank b') ∧
    t = a ++ core ++ b ∧ t' = a' ++ core' ++ b' ∧ core.map Char.toLower = core'.map Char.toLower

/-- Texts are alike if they come to the same text when outer blanks are taken away and capitals are
made small. -/
theorem alike_iff (t t' : Text) :
    Alike t t' ↔ (trim t).map Char.toLower = (trim t').map Char.toLower := by
  constructor
  · rintro ⟨a, b, a', b', core, core', ⟨⟨ha, hb⟩, ha', hb'⟩, rfl, rfl, hcore⟩
    rw [trim_append_allBlank hb, trim_allBlank_append ha, trim_append_allBlank hb',
      trim_allBlank_append ha', ← trim_map_toLower, hcore, trim_map_toLower]
  · intro h
    obtain ⟨a, b, ha, hb, _, ht⟩ := trim_split t
    obtain ⟨a', b', ha', hb', _, ht'⟩ := trim_split t'
    exact ⟨a, b, a', b', trim t, trim t', ⟨⟨ha, hb⟩, ha', hb'⟩, ht, ht', h⟩

end Agenda.Text
