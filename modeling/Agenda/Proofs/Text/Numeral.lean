import Agenda.Proofs.Text.Trim
import Agenda.Text.Numeral
import Mathlib

/-!
Decimal numerals are read back. A padded numeral is a text of plain digits, as long as it is asked
to be, and the number that it writes is the one that it was made from.
-/

namespace Agenda.Text

/-- The ten plain digits. -/
def plainDigits : Text := "0123456789".toList

theorem toNat_of_isPlainDigit {c : Char} (h : isPlainDigit c = true) :
    0x30 ≤ c.toNat ∧ c.toNat ≤ 0x39 := by
  simp only [isPlainDigit, Bool.and_eq_true, decide_eq_true_eq] at h
  exact h

theorem mem_plainDigits {c : Char} (h : isPlainDigit c = true) : c ∈ plainDigits := by
  have hrange := toNat_of_isPlainDigit h
  have hall : ∀ n < 10, Char.ofNat (0x30 + n) ∈ plainDigits := by decide
  have hc : Char.ofNat (0x30 + (c.toNat - 0x30)) = c := by
    rw [show 0x30 + (c.toNat - 0x30) = c.toNat by omega, Char.ofNat_toNat]
  exact hc ▸ hall (c.toNat - 0x30) (by omega)

theorem not_isBlank_of_isPlainDigit {c : Char} (h : isPlainDigit c = true) :
    isBlank c = false := by
  have hrange := toNat_of_isPlainDigit h
  simp only [isBlank_char, blankRanges, covers, Bool.and_eq_false_iff, Bool.or_eq_false_iff,
    decide_eq_false_iff_not]
  omega

/-- A plain digit stands for the number of its place among the ten. -/
theorem digitValue?_plain {c : Char} (hc : isPlainDigit c = true) :
    digitValue? c = some (c.toNat - 48) := by
  have hall : (plainDigits.all fun c => digitValue? c == some (c.toNat - 48)) = true := by decide
  exact beq_iff_eq.mp (List.all_eq_true.mp hall c (mem_plainDigits hc))

/-- A run of plain digits that is not empty. -/
structure IsNumeral (digits : Text) : Prop where
  ne_nil : digits ≠ []
  isPlainDigit : ∀ c ∈ digits, isPlainDigit c = true

/-- A text that starts with a numeral does not start with a blank. -/
theorem IsNumeral.not_isBlank_head {digits : Text} (h : IsNumeral digits) (rest : Text) :
    ∀ c ∈ (digits ++ rest).head?, isBlank c = false := by
  obtain ⟨d, more, rfl⟩ := List.exists_cons_of_ne_nil h.ne_nil
  rintro c ⟨⟩
  exact not_isBlank_of_isPlainDigit (h.isPlainDigit d List.mem_cons_self)

/-- A text that ends in a numeral does not end in a blank. -/
theorem IsNumeral.not_isBlank_last {digits : Text} (h : IsNumeral digits) (front : Text) :
    ∀ c ∈ (front ++ digits).getLast?, isBlank c = false := by
  rw [List.getLast?_append_of_ne_nil _ h.ne_nil]
  intro c hc
  exact not_isBlank_of_isPlainDigit (h.isPlainDigit c (List.mem_of_getLast? hc))

section Padded

variable {width n : Nat}

theorem isPlainDigit_of_mem_padded {c : Char} (h : c ∈ padded width n) : isPlainDigit c = true := by
  rcases List.mem_append.mp h with hzero | hdigit
  · rw [List.eq_of_mem_replicate hzero]
    rfl
  · have hc := Nat.isDigit_of_mem_toDigits (by decide) (by decide) hdigit
    simpa [Char.isDigit, isPlainDigit, Char.le_def] using hc

theorem notMem_padded {c : Char} (hc : isPlainDigit c = false) (width n : Nat) :
    c ∉ padded width n := by
  intro hmem
  rw [isPlainDigit_of_mem_padded hmem] at hc
  cases hc

theorem numberOfPlain_padded (width n : Nat) : numberOfPlain (padded width n) = n := by
  have hfold : ∀ t, numberOfPlain t = Nat.ofDigitChars 10 t 0 := fun t => List.foldl_map
  rw [hfold, padded, zeroPadded, Nat.ofDigitChars_append, Nat.ofDigitChars_replicate_zero,
    Nat.mul_zero]
  exact Nat.ofDigitChars_toDigits (by decide) (by decide)

theorem padded_inj {m : Nat} (h : padded width m = padded width n) : m = n := by
  rw [← numberOfPlain_padded width m, h, numberOfPlain_padded]

theorem length_padded (hwidth : 0 < width) (h : n < 10 ^ width) :
    (padded width n).length = width := by
  have hlength : (ofNat n).length ≤ width :=
    (Nat.length_toDigits_le_iff (by decide) hwidth).mpr h
  rw [padded, zeroPadded, List.length_append, List.length_replicate]
  omega

/-- A number of few enough digits is padded to no more. -/
theorem length_padded_le {most : Nat} (hwidth : width ≤ most) (hmost : 0 < most)
    (h : n < 10 ^ most) : (padded width n).length ≤ most := by
  have hlength : (ofNat n).length ≤ most :=
    (Nat.length_toDigits_le_iff (by decide) hmost).mpr h
  rw [padded, zeroPadded, List.length_append, List.length_replicate]
  omega

theorem isNumeral_padded (width n : Nat) : IsNumeral (padded width n) := by
  refine ⟨?_, fun c hc => isPlainDigit_of_mem_padded hc⟩
  intro hnil
  exact Nat.toDigits_ne_nil (List.append_eq_nil_iff.mp hnil).2

end Padded

section Integers

private theorem ofNat_eq_padded (n : Nat) : ofNat n = padded 0 n := by
  simp [padded, zeroPadded]

theorem isNumeral_ofNat (n : Nat) : IsNumeral (ofNat n) :=
  ofNat_eq_padded n ▸ isNumeral_padded 0 n

private theorem groupedDigits_digits {digits : Text} (hne : digits ≠ [])
    (h : ∀ c ∈ digits, isPlainDigit c = true) :
    groupedDigits digits = some (digits.map fun c => c.toNat - 48) := by
  induction digits with
  | nil => exact absurd rfl hne
  | cons c rest ih =>
      have hc := digitValue?_plain (h c List.mem_cons_self)
      cases rest with
      | nil => simp [groupedDigits, hc]
      | cons d more =>
          have hd : d ≠ '_' := by
            rintro rfl
            have hlow := h '_' (List.mem_cons_of_mem _ List.mem_cons_self)
            cases hlow
          have hrest := ih (List.cons_ne_nil d more)
            fun c hc => h c (List.mem_cons_of_mem _ hc)
          simp [groupedDigits, hc, hd, hrest]

theorem ofInt_ne_nil (n : Int) : ofInt n ≠ [] := by
  cases n with
  | ofNat m => exact (isNumeral_ofNat m).ne_nil
  | negSucc m => exact List.cons_ne_nil _ _

theorem not_isBlank_ofInt {n : Int} {c : Char} (hc : c ∈ ofInt n) : isBlank c = false := by
  have hdigit : ∀ m, c ∈ ofNat m → isBlank c = false := fun m hm =>
    not_isBlank_of_isPlainDigit ((isNumeral_ofNat m).isPlainDigit c hm)
  cases n with
  | ofNat m => exact hdigit m hc
  | negSucc m =>
      rcases List.mem_cons.mp hc with rfl | hc
      · rfl
      · exact hdigit (m + 1) hc

/-- A text that ends in an integer and does not start with a blank is its own trim. -/
theorem trim_append_ofInt (front : Text) (hfront : ∀ c ∈ front.head?, isBlank c = false) (n : Int) :
    trim (front ++ ofInt n) = front ++ ofInt n := by
  apply trim_of_ends
  · cases front with
    | nil => exact fun c hc => not_isBlank_ofInt (List.mem_of_mem_head? hc)
    | cons c rest => exact hfront
  · rw [List.getLast?_append_of_ne_nil _ (ofInt_ne_nil n)]
    exact fun c hc => not_isBlank_ofInt (List.mem_of_getLast? hc)

/-- An integer is read back unless its numeral has too many digits. -/
theorem toInt?_ofInt (n : Int) :
    toInt? (ofInt n) = if (ofNat n.natAbs).length ≤ maxDigits then some n else none := by
  have hread : ∀ m : Nat, (do
      let values ← groupedDigits (ofNat m)
      if values.length ≤ maxDigits then some (numberOf values : Int) else none) =
        if (ofNat m).length ≤ maxDigits then some (m : Int) else none := by
    intro m
    have hdigits := isNumeral_ofNat m
    have hnumber : numberOf ((ofNat m).map fun c => c.toNat - 48) = m := by
      rw [ofNat_eq_padded]
      exact numberOfPlain_padded 0 m
    rw [groupedDigits_digits hdigits.ne_nil hdigits.isPlainDigit]
    simp [hnumber]
  have htrim : trim (ofInt n) = ofInt n := trim_append_ofInt [] nofun n
  rw [toInt?, htrim]
  cases n with
  | ofNat m =>
      have hdigits := (isNumeral_ofNat m).isPlainDigit
      dsimp only [ofInt]
      split
      · next rest hminus =>
          have hsign := hdigits '-' (hminus ▸ List.mem_cons_self)
          cases hsign
      · next rest hplus =>
          have hsign := hdigits '+' (hplus ▸ List.mem_cons_self)
          cases hsign
      · exact hread m
  | negSucc m =>
      have habs : (Int.negSucc m).natAbs = m + 1 := rfl
      rw [habs]
      change Option.map _ (do let values ← _; _) = _
      rw [hread (m + 1)]
      split_ifs <;> rfl

end Integers

end Agenda.Text
