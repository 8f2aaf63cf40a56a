import Agenda.DueDate.Format
import Agenda.Proofs.Text.Lower
import Agenda.Proofs.Text.Numeral
import Mathlib

/-!
What the parts of a format read from digits. A part that tries several spellings may read the
beginning of a run of digits only, but nothing that can come after it goes on with a digit. So of a
run in front of a separator it reads the whole or nothing, and whether it does is a matter of the
length of the run and of the number that it writes.
-/

namespace Agenda.DueDate

open Calendar Text

/-- What stands between the numbers of explicit dates. -/
def separators : Text := ['-', '/', 'T', ':', 'Z', ',', ' ']

/-- The numbers that spellings of exactly the length of the run write with it. -/
def Part.wholes (part : Part) (digits : Text) : List Nat :=
  part.spellings.filterMap fun slots =>
    if slots.length = digits.length then (spelled? slots 0 digits).map Prod.fst else none

/-- The least and the greatest number of a part that has at most two digits. -/
def Part.bounds? : Part → Option (Nat × Nat)
  | .month => some (1, 12)
  | .day => some (1, 31)
  | .hour => some (0, 23)
  | .minute => some (0, 59)
  | .second => some (0, 61)
  | _ => none

theorem spellings_of_bounds {part : Part} {bounds : Nat × Nat}
    (hbounds : part.bounds? = some bounds) : part.spellings ≠ [] ∧ bounds.2 < 100 := by
  cases part <;> cases hbounds <;> decide

/-- No reading of the parts goes on with a digit. -/
def RefusesDigits (parts : List Part) : Prop :=
  ∀ (fields : Fields) (c : Char) (s : Text), isPlainDigit c = true →
    readParts parts fields (c :: s) = []

/-- The slot reads none of the separators. -/
def Slot.refusesSeparators (slot : Slot) : Bool := separators.all fun c => (slot.value? c).isNone

private theorem spellings_refuse (part : Part) :
    (part.spellings.all fun slots => slots.tail.all Slot.refusesSeparators) = true := by
  cases part <;> rfl

section Runs

variable {digits rest : Text} (hdigits : ∀ c ∈ digits, isPlainDigit c = true)
  (hrest : ∀ c ∈ rest.head?, c ∈ separators)
include hdigits hrest

/-- Slots of which none reads a separator behind the run read it as a whole or leave digits of
it. -/
private theorem spelled?_run (slots : List Slot) (n : Nat)
    (hslots : ∀ slot ∈ slots.drop digits.length, slot.refusesSeparators = true) :
    (slots.length = digits.length → spelled? slots n (digits ++ rest) =
        (spelled? slots n digits).map fun found => (found.1, rest)) ∧
      (slots.length ≠ digits.length → ∀ found ∈ spelled? slots n (digits ++ rest),
        ∃ c more, found.2 = c :: more ∧ isPlainDigit c = true) := by
  induction slots generalizing digits n with
  | nil =>
      cases digits with
      | nil => exact ⟨fun _ => rfl, fun h => absurd rfl h⟩
      | cons c more =>
          refine ⟨nofun, fun _ found hfound => ?_⟩
          cases hfound
          exact ⟨c, more ++ rest, rfl, hdigits c List.mem_cons_self⟩
  | cons slot slots ih =>
      cases digits with
      | nil =>
          have hnone : spelled? (slot :: slots) n ([] ++ rest) = none := by
            cases rest with
            | nil => rfl
            | cons c more =>
                have hrefuses :=
                  List.all_eq_true.mp (hslots slot List.mem_cons_self) c (hrest c rfl)
                rw [Option.isNone_iff_eq_none] at hrefuses
                rw [List.nil_append, spelled?, hrefuses]
          rw [hnone]
          exact ⟨nofun, fun _ => nofun⟩
      | cons c more =>
          have hmore := fun n => ih (fun c hc => hdigits c (List.mem_cons_of_mem _ hc)) n hslots
          rw [List.cons_append, spelled?, spelled?, List.length_cons, List.length_cons,
            Nat.succ_inj, Ne, Nat.succ_inj]
          cases slot.value? c with
          | none => exact ⟨fun _ => rfl, fun _ => nofun⟩
          | some d => exact hmore (10 * n + d)

end Runs

private theorem read_eq {part : Part} (hpart : part.spellings ≠ []) (fields : Fields) (s : Text) :
    part.read fields s = (part.spellings.filterMap fun slots => spelled? slots 0 s).map
      fun (n, rest) => (fields.set n part, rest) := by
  cases part with
  | monthName => exact absurd rfl hpart
  | blanks => exact absurd rfl hpart
  | mark c => exact absurd rfl hpart
  | _ => rfl

private theorem flatMap_filterMap_congr {α β γ δ : Type} {l : List α} {f : α → Option β}
    {f' : α → Option γ} {g : β → List δ} {g' : γ → List δ}
    (h : ∀ a ∈ l, (f a).toList.flatMap g = (f' a).toList.flatMap g') :
    (l.filterMap f).flatMap g = (l.filterMap f').flatMap g' := by
  induction l with
  | nil => rfl
  | cons a l ih =>
      have hhead := h a List.mem_cons_self
      have htail := ih fun b hb => h b (List.mem_cons_of_mem _ hb)
      rw [List.filterMap_cons, List.filterMap_cons]
      cases hf : f a <;> cases hf' : f' a <;> simp_all

/-- A numeric part reads a run of digits in front of a separator as a whole. -/
theorem readParts_digits {part : Part} (hpart : part.spellings ≠ []) {parts : List Part}
    (hparts : RefusesDigits parts) {digits rest : Text} (hdigits : IsNumeral digits)
    (hrest : ∀ c ∈ rest.head?, c ∈ separators) (fields : Fields) :
    readParts (part :: parts) fields (digits ++ rest) =
      (part.wholes digits).flatMap fun n => readParts parts (fields.set n part) rest := by
  rw [readParts, read_eq hpart, List.flatMap_map, Part.wholes]
  apply flatMap_filterMap_congr
  intro slots hslots
  have hrun := spelled?_run hdigits.isPlainDigit hrest slots 0 <| by
    have htail := List.all_eq_true.mp (spellings_refuse part) slots hslots
    obtain ⟨c, more, rfl⟩ := List.exists_cons_of_ne_nil hdigits.ne_nil
    rw [List.length_cons, ← List.drop_tail]
    exact fun slot hslot => List.all_eq_true.mp htail slot (List.mem_of_mem_drop hslot)
  by_cases hlength : slots.length = digits.length
  · rw [hrun.1 hlength, if_pos hlength]
    cases spelled? slots 0 digits <;> rfl
  · rw [if_neg hlength]
    cases hfound : spelled? slots 0 (digits ++ rest) with
    | none => rfl
    | some found =>
        obtain ⟨c, more, hfront, hc⟩ := hrun.2 hlength found hfound
        simp [hfront, hparts _ c more hc]

/-- The parts of at most two digits. -/
private def shortParts : List Part := [.month, .day, .hour, .minute, .second]

/-- The runs of one digit and of two. -/
private def shortRuns : List Text :=
  (plainDigits.map fun c => [c]) ++ plainDigits.flatMap fun c => plainDigits.map fun d => [c, d]

private theorem mem_shortRuns {digits : Text} (hdigits : IsNumeral digits)
    (hlength : digits.length ≤ 2) : digits ∈ shortRuns := by
  obtain ⟨hsome, hdigits⟩ := hdigits
  match digits, hsome, hdigits with
  | [c], _, hdigits =>
      exact List.mem_append_left _ (List.mem_map_of_mem (mem_plainDigits (hdigits c (by simp))))
  | [c, d], _, hdigits =>
      refine List.mem_append_right _ (List.mem_flatMap.mpr ⟨c, ?_, List.mem_map_of_mem ?_⟩)
      · exact mem_plainDigits (hdigits c (by simp))
      · exact mem_plainDigits (hdigits d (by simp))
  | _ :: _ :: _ :: more, _, _ => simp at hlength

private theorem wholes_shortRuns :
    (shortParts.all fun part => part.bounds?.any fun bounds => shortRuns.all fun digits =>
      part.wholes digits ==
        if bounds.1 ≤ numberOfPlain digits ∧ numberOfPlain digits ≤ bounds.2 then
          [numberOfPlain digits]
        else []) = true := by
  decide +kernel

private theorem shortParts_slots :
    (shortParts.all fun part => part.spellings.all fun slots => Nat.ble slots.length 2) = true := by
  decide

/-- A part of at most two digits reads the run as its number if that is within the bounds. -/
theorem wholes_of_bounds {part : Part} {bounds : Nat × Nat} (hbounds : part.bounds? = some bounds)
    {digits : Text} (hdigits : IsNumeral digits) :
    part.wholes digits =
      if digits.length ≤ 2 ∧ bounds.1 ≤ numberOfPlain digits ∧ numberOfPlain digits ≤ bounds.2 then
        [numberOfPlain digits]
      else [] := by
  have hpart : part ∈ shortParts := by
    cases part <;> first | decide | cases hbounds
  by_cases hlength : digits.length ≤ 2
  · have hall := List.all_eq_true.mp wholes_shortRuns part hpart
    rw [hbounds, Option.any_some, List.all_eq_true] at hall
    simp only [beq_iff_eq.mp (hall digits (mem_shortRuns hdigits hlength)), hlength, true_and]
  · have hslots := List.all_eq_true.mp (List.all_eq_true.mp shortParts_slots part hpart)
    rw [if_neg fun h => hlength h.1, Part.wholes, List.filterMap_eq_nil_iff]
    intro slots hmem
    have hle := Nat.le_of_ble_eq_true (hslots slots hmem)
    exact if_neg (by omega)

/-- A run of digits writes its number in as many slots for digits. -/
private theorem spelled?_plain {digits : Text} (hdigits : ∀ c ∈ digits, isPlainDigit c = true)
    (n : Nat) (rest : Text) :
    spelled? (List.replicate digits.length .digit) n (digits ++ rest) =
      some ((digits.map fun c => c.toNat - 48).foldl (fun n d => 10 * n + d) n, rest) := by
  induction digits generalizing n with
  | nil => rfl
  | cons c more ih =>
      rw [List.length_cons, List.replicate_succ, List.cons_append, spelled?, Slot.value?,
        digitValue?_plain (hdigits c List.mem_cons_self)]
      exact ih (fun d hd => hdigits d (List.mem_cons_of_mem _ hd)) _

private theorem spellings_year : Part.year.spellings = [List.replicate 4 .digit] := rfl

/-- A year has four digits. -/
theorem wholes_year {digits : Text} (hdigits : IsNumeral digits) :
    Part.year.wholes digits = if digits.length = 4 then [numberOfPlain digits] else [] := by
  have hread := spelled?_plain hdigits.isPlainDigit 0 []
  rw [List.append_nil] at hread
  rw [Part.wholes, spellings_year, List.filterMap_cons, List.filterMap_nil, List.length_replicate]
  by_cases hlength : digits.length = 4
  · rw [hlength] at hread
    rw [if_pos hlength.symm, if_pos hlength, hread]
    rfl
  · rw [if_neg (Ne.symm hlength), if_neg hlength]

private theorem read_mark (mark c : Char) (fields : Fields) (rest : Text) :
    (Part.mark mark).read fields (c :: rest) =
      if foldChar c = foldChar mark then [(fields, rest)] else [] :=
  rfl

private theorem read_blanks (fields : Fields) (s : Text) :
    Part.blanks.read fields s = (afterBlanks s).map fun rest => (fields, rest) :=
  rfl

theorem refusesDigits_mark {mark : Char} (hmark : mark ∈ separators) (parts : List Part) :
    RefusesDigits (.mark mark :: parts) := by
  intro fields c s hc
  have hall : (plainDigits.all fun c => separators.all fun mark =>
      decide (foldChar c ≠ foldChar mark)) = true := by
    decide +kernel
  have hne := List.all_eq_true.mp (List.all_eq_true.mp hall c (mem_plainDigits hc)) mark hmark
  rw [readParts, read_mark, if_neg (of_decide_eq_true hne), List.flatMap_nil]

theorem refusesDigits_blanks (parts : List Part) : RefusesDigits (.blanks :: parts) := by
  intro fields c s hc
  rw [readParts, read_blanks, afterBlanks, not_isBlank_of_isPlainDigit hc]
  rfl

section Marks

variable (parts : List Part) (fields : Fields) (rest : Text)

theorem readParts_mark (mark : Char) :
    readParts (.mark mark :: parts) fields (mark :: rest) = readParts parts fields rest := by
  rw [readParts, read_mark, if_pos rfl, List.flatMap_singleton]

theorem readParts_mark_of_ne {mark c : Char} (hne : foldChar c ≠ foldChar mark) :
    readParts (.mark mark :: parts) fields (c :: rest) = [] := by
  rw [readParts, read_mark, if_neg hne, List.flatMap_nil]

/-- One blank is passed in front of what is none. -/
theorem readParts_blank (hrest : ∀ c ∈ rest.head?, isBlank c = false) :
    readParts (.blanks :: parts) fields (' ' :: rest) = readParts parts fields rest := by
  have hstop : afterBlanks rest = [] := by
    cases rest with
    | nil => rfl
    | cons c more => rw [afterBlanks, hrest c rfl, if_neg Bool.false_ne_true]
  have hblank : isBlank ' ' = true := rfl
  rw [readParts, read_blanks, afterBlanks, hstop, if_pos hblank, List.nil_append,
    List.map_singleton, List.flatMap_singleton]

theorem readParts_blanks_of_not_blank {c : Char} (hc : isBlank c = false) :
    readParts (.blanks :: parts) fields (c :: rest) = [] := by
  rw [readParts, read_blanks, afterBlanks, hc]
  rfl

end Marks

theorem readParts_last (part : Part) (fields : Fields) (s : Text) :
    readParts [part] fields s = part.read fields s := by
  rw [readParts]
  exact List.flatMap_singleton' _

private theorem day_shortRuns :
    (shortRuns.all fun digits =>
      !(Nat.ble 1 (numberOfPlain digits) && Nat.ble (numberOfPlain digits) 31) ||
      (Part.day.spellings.filterMap fun slots => spelled? slots 0 digits).head? ==
        some (numberOfPlain digits, [])) = true := by
  decide +kernel

section Ends

variable {digits : Text} (hdigits : IsNumeral digits) (fields : Fields)
include hdigits

theorem readParts_year (hlength : digits.length = 4) :
    readParts [.year] fields digits = [(fields.set (numberOfPlain digits) .year, [])] := by
  have hread := spelled?_plain hdigits.isPlainDigit 0 []
  rw [List.append_nil, hlength] at hread
  rw [readParts_last, read_eq (by decide), spellings_year, List.filterMap_cons, hread]
  rfl

/-- A year is read up to the end of a text only if it has four digits. -/
theorem length_of_readParts_year {found : Fields × Text}
    (hfound : found ∈ readParts [.year] fields digits) (hend : found.2 = []) :
    digits.length = 4 := by
  have hdigit : Slot.refusesSeparators .digit = true := by rfl
  have hend' : ∀ c ∈ ([] : Text).head?, c ∈ separators := nofun
  have hrun := spelled?_run hdigits.isPlainDigit hend' (List.replicate 4 .digit) 0
    fun slot hslot => List.eq_of_mem_replicate (List.mem_of_mem_drop hslot) ▸ hdigit
  rw [readParts_last, read_eq (by decide), spellings_year, List.mem_map] at hfound
  obtain ⟨read, hread, rfl⟩ := hfound
  obtain ⟨slots, hslots, hspelled⟩ := List.mem_filterMap.mp hread
  rw [List.mem_singleton.mp hslots] at hspelled
  by_contra hlength
  rw [List.append_nil, List.length_replicate] at hrun
  obtain ⟨c, more, hmore, _⟩ := hrun.2 (Ne.symm hlength) read hspelled
  cases hmore.symm.trans hend

/-- At the end of a text the first reading of a day is that of the whole run. -/
theorem head?_readParts_day (hlength : digits.length ≤ 2)
    (hday : 1 ≤ numberOfPlain digits ∧ numberOfPlain digits ≤ 31) :
    (readParts [.day] fields digits).head? =
      some (fields.set (numberOfPlain digits) .day, []) := by
  have hread := List.all_eq_true.mp day_shortRuns digits (mem_shortRuns hdigits hlength)
  rw [Nat.ble_eq_true_of_le hday.1, Nat.ble_eq_true_of_le hday.2, Bool.and_true, Bool.not_true,
    Bool.false_or, beq_iff_eq] at hread
  rw [readParts_last, read_eq (by decide), List.head?_map, hread]
  rfl

end Ends

/-- The date and time that fields name. -/
def Fields.stamp? (fields : Fields) (universal : Bool) : Option Stamp := do
  let date ← Date.ofNumbers? fields.year fields.month fields.day
  let time ← (TimeOfDay.ofFields fields.hour fields.minute fields.second).toOption
  return ⟨date, time, universal⟩

/-- Fields of a day without a time name its midnight. -/
theorem Fields.stamp?_date (year month day : Nat) (universal : Bool) :
    Fields.stamp? { year := year, month := month, day := day } universal =
      (Date.ofNumbers? year month day).map fun date => ⟨date, .midnight, universal⟩ := by
  unfold Fields.stamp?
  cases Date.ofNumbers? year month day <;> rfl

section Formats

variable {format : Format} {s : Text}

theorem read?_of_head {fields : Fields}
    (h : (readParts format.parts {} s).head? = some (fields, [])) :
    format.read? s = fields.stamp? format.universal := by
  unfold Format.read?
  rw [h]
  rfl

theorem read?_of_unread (h : ∀ found ∈ readParts format.parts {} s, found.2 ≠ []) :
    format.read? s = none := by
  unfold Format.read?
  cases hhead : (readParts format.parts {} s).head? with
  | none => rfl
  | some found =>
      have hrest := h found (List.mem_of_mem_head? hhead)
      simp [hrest]

theorem read?_of_nil (h : readParts format.parts {} s = []) : format.read? s = none :=
  read?_of_unread (h ▸ nofun)

end Formats

/-- The first three letters of a month, the first of them capital. -/
def monthAbbreviation (month : Nat) : Text := capitalized ((monthNames.getD (month - 1) []).take 3)

section MonthNames

variable {month : Nat} (hmonth : 1 ≤ month ∧ month ≤ 12) (parts : List Part) (fields : Fields)
  (rest : Text)
include hmonth

theorem readParts_monthName :
    readParts (.monthName :: parts) fields (monthAbbreviation month ++ rest) =
      readParts parts (fields.set month .monthName) rest := by
  obtain ⟨hfirst, hlast⟩ := hmonth
  interval_cases month <;> exact List.append_nil _

theorem readParts_of_monthName {part : Part} (hpart : part.spellings ≠ []) :
    readParts (part :: parts) fields (monthAbbreviation month ++ rest) = [] := by
  rw [readParts, read_eq hpart]
  obtain ⟨hfirst, hlast⟩ := hmonth
  cases part <;> interval_cases month <;> rfl

theorem not_isBlank_monthAbbreviation :
    ∀ c ∈ (monthAbbreviation month ++ rest).head?, isBlank c = false := by
  obtain ⟨hfirst, hlast⟩ := hmonth
  interval_cases month <;> (rintro c ⟨⟩; rfl)

omit hmonth in
/-- No month starts with a digit. -/
theorem readParts_monthName_of_numeral {digits : Text} (hdigits : IsNumeral digits) :
    readParts (.monthName :: parts) fields (digits ++ rest) = [] := by
  obtain ⟨c, more, rfl⟩ := List.exists_cons_of_ne_nil hdigits.ne_nil
  have hc := hdigits.isPlainDigit c List.mem_cons_self
  have hnone : (monthNames.findIdx? fun name =>
      name.take 3 == ((c :: more ++ rest).take 3).map foldChar) = none := by
    rw [List.findIdx?_eq_none_iff]
    intro name hname
    have hall : (monthNames.all fun name => (name.take 3).head?.all fun d => !isPlainDigit d) =
        true := by
      decide
    have hrange := toNat_of_isPlainDigit hc
    have hletter := List.all_eq_true.mp hall name hname
    rw [beq_eq_false_iff_ne]
    intro heq
    rw [heq, List.cons_append, List.take_succ_cons, List.map_cons, List.head?_cons, Option.all_some,
      foldChar_plain (by omega) (by omega), hc] at hletter
    cases hletter
  have hread : Part.monthName.read fields (c :: more ++ rest) = [] := by
    unfold Part.read
    dsimp only
    rw [hnone]
  rw [readParts, hread, List.flatMap_nil]

end MonthNames

end Agenda.DueDate
