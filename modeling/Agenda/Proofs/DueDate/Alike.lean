import Agenda.DueDate.Resolve
import Agenda.Proofs.Phrase.Alike
import Mathlib

/-!
Letter case and outer blanks have no part in what a due date means. The parts of the explicit
formats do not tell a capital from its small letter either, so alike texts are read in the same
format or in none, and then as phrases.
-/

namespace Agenda.DueDate

open Clock Text

/-- A way to read parts of a text, with the rest in small letters. -/
private def small (found : Fields × Text) : Fields × Text := (found.1, found.2.map Char.toLower)

/-- The slot takes no code point beyond the figures in itself, apart from digits of other scripts. -/
private def isFigure : Slot → Bool
  | .between _ last => Nat.ble last.toNat 0x39
  | _ => true

private theorem isFigure_spellings (part : Part) :
    (part.spellings.all fun slots => slots.all isFigure) = true := by
  cases part <;> rfl

/-- No run of digits but the first starts among the plain code points. -/
private theorem digitValue?_beyond {c : Char} (h : IsBeyondFigures c) : digitValue? c = none := by
  have hstarts : (digitZeros.all fun start => start == 0x30 || Nat.ble 0x80 start) = true := by
    decide
  have hnone : (digitZeros.find? fun start => start ≤ c.toNat && c.toNat ≤ start + 9) = none := by
    rw [List.find?_eq_none]
    intro start hstart
    have hplace := List.all_eq_true.mp hstarts start hstart
    obtain ⟨hlow, hhigh⟩ := h
    simp only [Bool.or_eq_true, beq_iff_eq, Nat.ble_eq, Bool.and_eq_true, decide_eq_true_eq]
      at hplace ⊢
    omega
  rw [digitValue?, hnone, Option.map_none]

private theorem value?_toLower {slot : Slot} (hslot : isFigure slot = true) (c : Char) :
    slot.value? c.toLower = slot.value? c := by
  cases slot with
  | digit => exact apply_toLower (fun _ h => digitValue?_beyond h) c
  | space =>
      apply apply_toLower
      intro d hd
      apply if_neg
      rintro rfl
      exact absurd hd (by decide)
  | between first last =>
      apply apply_toLower
      intro d hd
      apply if_neg
      rintro ⟨_, hle⟩
      have hlast : last.toNat ≤ 0x39 := Nat.le_of_ble_eq_true hslot
      have hbeyond : d.toNat ≤ last.toNat := UInt32.le_iff_toNat_le.mp hle
      have hbelow := hd.1
      omega

private theorem spelled?_toLower {slots : List Slot}
    (hslots : ∀ slot ∈ slots, ∀ c, slot.value? c.toLower = slot.value? c) (n : Nat) (s : Text) :
    spelled? slots n (s.map Char.toLower) =
      (spelled? slots n s).map fun (m, rest) => (m, rest.map Char.toLower) := by
  induction slots generalizing n s with
  | nil => rfl
  | cons slot slots ih =>
      obtain ⟨hslot, hmore⟩ := List.forall_mem_cons.mp hslots
      cases s with
      | nil => rfl
      | cons c rest =>
          rw [List.map_cons, spelled?, spelled?, hslot]
          cases slot.value? c with
          | none => rfl
          | some d => exact ih hmore _ rest

private theorem afterBlanks_toLower (s : Text) :
    afterBlanks (s.map Char.toLower) = (afterBlanks s).map (List.map Char.toLower) := by
  induction s with
  | nil => rfl
  | cons c rest ih =>
      rw [List.map_cons, afterBlanks, afterBlanks, isBlank_toLower, ih]
      split <;> simp

private theorem map_foldChar_toLower (s : Text) :
    (s.map Char.toLower).map foldChar = s.map foldChar := by
  rw [List.map_map]
  exact List.map_congr_left fun c _ => (readsAs_toLower c).fold

/-- A part is read in as many ways with small letters. -/
private theorem read_toLower (part : Part) (fields : Fields) (s : Text) :
    part.read fields (s.map Char.toLower) = (part.read fields s).map small := by
  have hspelled : ∀ slots ∈ part.spellings, spelled? slots 0 (s.map Char.toLower) =
      (spelled? slots 0 s).map fun (m, rest) => (m, rest.map Char.toLower) := by
    intro slots hslots
    apply spelled?_toLower
    intro slot hslot
    have hfigures := List.all_eq_true.mp (isFigure_spellings part) slots hslots
    exact value?_toLower (List.all_eq_true.mp hfigures slot hslot)
  have hnumeric :
      ((part.spellings.filterMap fun slots => spelled? slots 0 (s.map Char.toLower)).map
        fun (n, rest) => (fields.set n part, rest)) =
      ((part.spellings.filterMap fun slots => spelled? slots 0 s).map
        fun (n, rest) => (fields.set n part, rest)).map small := by
    rw [List.filterMap_congr hspelled]
    simp only [List.map_filterMap, Option.map_map]
    rfl
  cases part with
  | blanks =>
      change (afterBlanks (s.map Char.toLower)).map (fun rest => (fields, rest)) =
        ((afterBlanks s).map fun rest => (fields, rest)).map small
      rw [afterBlanks_toLower, List.map_map, List.map_map]
      rfl
  | mark c =>
      cases s with
      | nil => rfl
      | cons d rest =>
          unfold Part.read
          rw [List.map_cons]
          dsimp only
          rw [(readsAs_toLower d).fold]
          split <;> rfl
  | monthName =>
      unfold Part.read
      dsimp only
      rw [← List.map_take, ← List.map_drop, map_foldChar_toLower]
      cases Calendar.monthNames.findIdx? fun name => name.take 3 == (s.take 3).map foldChar with
      | none => rfl
      | some i => rfl
  | _ => exact hnumeric

private theorem readParts_toLower (parts : List Part) (fields : Fields) (s : Text) :
    readParts parts fields (s.map Char.toLower) = (readParts parts fields s).map small := by
  induction parts generalizing fields s with
  | nil => rfl
  | cons part parts ih =>
      rw [readParts, readParts, read_toLower, List.flatMap_map, List.map_flatMap]
      exact congrArg (List.flatMap · _) (funext fun found => ih found.1 found.2)

/-- An explicit date is the same in small letters. -/
theorem stamp?_toLower (s : Text) : stamp? (s.map Char.toLower) = stamp? s := by
  have hread : ∀ format : Format, format.read? (s.map Char.toLower) = format.read? s := by
    intro format
    unfold Format.read?
    rw [readParts_toLower, List.head?_map]
    cases (readParts format.parts {} s).head? with
    | none => rfl
    | some found =>
        obtain ⟨fields, rest⟩ := found
        simp only [Option.map_some, small, Option.bind_eq_bind, Option.bind_some,
          List.map_eq_nil_iff]
  unfold stamp?
  simp only [hread]

/-- A blank text is no explicit date, so the test for it makes no difference. -/
theorem resolve_eq (clock : WallClock) (anchor : Anchor) (text : Text) :
    resolve clock anchor (some text) =
      match stamp? (trim text) with
      | some stamp => some <$> stamp.second clock.zone
      | none => Phrase.resolve clock anchor (some (trim text)) := by
  unfold resolve
  by_cases hblank : isBlankText text = true
  · have hnil : trim text = [] := (trim_eq_nil_iff text).mpr ((isBlankText_iff text).mp hblank)
    have hnone : stamp? [] = none := by rfl
    have hphrase : Phrase.resolve clock anchor (some []) = pure none := rfl
    have hunused : Phrase.usable? (some text) = none := if_pos hblank
    simp only [hunused, hnil, hnone, hphrase]
  · have hused : Phrase.usable? (some text) = some text := if_neg hblank
    cases hstamp : stamp? (trim text) with
    | some stamp => simp only [hused, hstamp]
    | none => simp only [hused, hstamp]

/-- Letter case and outer blanks are irrelevant. Texts that are the same but for outer blanks and
the case of the letters `A` to `Z` have the same outcome, be it a second, nothing or a failure, as
phrases, as times of day and as due dates, on every clock and at every time. -/
theorem resolve_eq_of_alike {t t' : Text} (h : Alike t t') (clock : WallClock) (anchor : Anchor) :
    Phrase.resolve clock anchor (some t) = Phrase.resolve clock anchor (some t') ∧
      Phrase.resolveTime clock anchor (some t) = Phrase.resolveTime clock anchor (some t') ∧
      resolve clock anchor (some t) = resolve clock anchor (some t') := by
  refine ⟨Phrase.resolve_of_alike h clock anchor, Phrase.resolveTime_of_alike h clock anchor, ?_⟩
  have hsmall := (alike_iff t t').mp h
  have hstamp : stamp? (trim t) = stamp? (trim t') := by
    rw [← stamp?_toLower (trim t), hsmall, stamp?_toLower]
  have hphrase : Phrase.resolve clock anchor (some (trim t)) =
      Phrase.resolve clock anchor (some (trim t')) := by
    apply Phrase.resolve_of_alike
    rwa [alike_iff, trim_trim, trim_trim]
  rw [resolve_eq, resolve_eq, hstamp, hphrase]

/-- A date with the name of a month, between a no-break space and a tab. -/
theorem resolve_eq_of_alike_march :
    let clock : WallClock := ⟨.utc, .ofInt 0⟩
    Alike "mar 5, 2026".toList "\u00a0MAR 5, 2026\t".toList ∧
      resolve clock .present (some "mar 5, 2026".toList) = .ok (some 1772668800) ∧
      resolve clock .present (some "\u00a0MAR 5, 2026\t".toList) = .ok (some 1772668800) := by
  intro clock
  have h : Alike "mar 5, 2026".toList "\u00a0MAR 5, 2026\t".toList :=
    (alike_iff _ _).mpr (by decide +kernel)
  have hvalue : resolve clock .present (some "mar 5, 2026".toList) = .ok (some 1772668800) := by
    decide +kernel
  exact ⟨h, hvalue, (resolve_eq_of_alike h clock .present).2.2.symm.trans hvalue⟩

end Agenda.DueDate
