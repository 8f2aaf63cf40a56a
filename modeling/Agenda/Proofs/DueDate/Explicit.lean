import Agenda.Clock.Notation
import Agenda.Proofs.Clock.LocalTime
import Agenda.Proofs.DueDate.Alike
import Agenda.Proofs.DueDate.Format
import Mathlib

/-!
Explicit due dates are read back. The formats are tried in order, and none reads what a later one is
for, except that a month and a day between slashes can change places.
-/

namespace Agenda.DueDate

open Calendar Clock Text

/-- The local start of a date, as an explicit due date. -/
def Stamp.ofDate (date : Date) : Stamp := ⟨date, .midnight, false⟩

section Parts

variable {parts : List Part} {fields : Fields} {rest : Text}

/-- A number in front of another mark than the one that follows it in the format is not read. -/
theorem readParts_of_mark_ne {part : Part} (hpart : part.spellings ≠ []) {digits : Text}
    (hdigits : IsNumeral digits) {mark c : Char} (hmark : mark ∈ separators) (hc : c ∈ separators)
    (hne : foldChar c ≠ foldChar mark) :
    readParts (part :: .mark mark :: parts) fields (digits ++ c :: rest) = [] := by
  rw [readParts_digits hpart (refusesDigits_mark hmark parts) hdigits (by simpa using hc)]
  exact List.flatMap_eq_nil_iff.mpr fun _ _ => readParts_mark_of_ne _ _ _ hne

theorem readParts_padded (part : Part) {bounds : Nat × Nat} (hbounds : part.bounds? = some bounds)
    (hparts : RefusesDigits parts) {width n : Nat} (hwidth : width ≤ 2)
    (hn : bounds.1 ≤ n ∧ n ≤ bounds.2) (hrest : ∀ c ∈ rest.head?, c ∈ separators) :
    readParts (part :: parts) fields (padded width n ++ rest) =
      readParts parts (fields.set n part) rest := by
  have hpart := spellings_of_bounds hbounds
  have hlength : (padded width n).length ≤ 2 := length_padded_le hwidth (by decide) (by omega)
  rw [readParts_digits hpart.1 hparts (isNumeral_padded width n) hrest,
    wholes_of_bounds hbounds (isNumeral_padded width n), numberOfPlain_padded,
    if_pos ⟨hlength, hn⟩, List.flatMap_singleton]

variable {mark : Char} (hmark : mark ∈ separators)
include hmark

/-- A number within the bounds is read with the mark behind it. -/
theorem readParts_padded_mark (part : Part) {bounds : Nat × Nat}
    (hbounds : part.bounds? = some bounds) {width n : Nat} (hwidth : width ≤ 2)
    (hn : bounds.1 ≤ n ∧ n ≤ bounds.2) :
    readParts (part :: .mark mark :: parts) fields (padded width n ++ mark :: rest) =
      readParts parts (fields.set n part) rest := by
  have hrest : ∀ c ∈ (mark :: rest).head?, c ∈ separators := by simpa using hmark
  rw [readParts_padded part hbounds (refusesDigits_mark hmark parts) hwidth hn hrest,
    readParts_mark]

theorem readParts_paddedYear_mark {n : Nat} (hn : n ≤ 9999) :
    readParts (.year :: .mark mark :: parts) fields (padded 4 n ++ mark :: rest) =
      readParts parts (fields.set n .year) rest := by
  have hlength : (padded 4 n).length = 4 := length_padded (by decide) (by omega)
  rw [readParts_digits (by decide) (refusesDigits_mark hmark parts) (isNumeral_padded 4 n)
      (by simpa using hmark),
    wholes_year (isNumeral_padded 4 n), numberOfPlain_padded, if_pos hlength,
    List.flatMap_singleton, readParts_mark]

end Parts

/-- A universal time in standard notation. -/
def Format.instant : Format :=
  ⟨[.year, .mark '-', .month, .mark '-', .day, .mark 'T', .hour, .mark ':', .minute, .mark ':',
    .second, .mark 'Z'], true⟩

/-- A date in standard notation. -/
def Format.standard : Format := ⟨[.year, .mark '-', .month, .mark '-', .day], false⟩

/-- Two numbers and a year between slashes. -/
def Format.slashes (part part' : Part) : Format :=
  ⟨[part, .mark '/', part', .mark '/', .year], false⟩

/-- A date with the name of the month in front. -/
def Format.namedMonth : Format :=
  ⟨[.monthName, .blanks, .day, .mark ',', .blanks, .year], false⟩

/-- A date with the name of the month behind the day. -/
def Format.namedDay : Format := ⟨[.day, .blanks, .monthName, .blanks, .year], false⟩

/-- The formats that start with a number and a mark. -/
def numericFormats : List Format :=
  [.instant, .standard, .slashes .month .day, .slashes .day .month]

theorem formats_eq : formats = numericFormats ++ [.namedMonth, .namedDay] := rfl

theorem parts_of_mem_numericFormats {format : Format} (h : format ∈ numericFormats) :
    ∃ part mark parts, format.parts = part :: .mark mark :: parts ∧ part.spellings ≠ [] ∧
      mark ∈ ['-', '/'] := by
  simp only [numericFormats, List.mem_cons, List.not_mem_nil, or_false] at h
  rcases h with rfl | rfl | rfl | rfl
  · exact ⟨.year, '-', _, rfl, by decide, by decide⟩
  · exact ⟨.year, '-', _, rfl, by decide, by decide⟩
  · exact ⟨.month, '/', _, rfl, by decide, by decide⟩
  · exact ⟨.day, '/', _, rfl, by decide, by decide⟩

/-- A text that no format with a number and a mark in front reads is left to those with the name of
the month. -/
theorem stamp?_of_not_numeric {s : Text} (h : ∀ format ∈ numericFormats, format.read? s = none) :
    stamp? s = (Format.namedMonth.read? s).or (Format.namedDay.read? s) := by
  rw [stamp?, formats_eq, List.findSome?_append, List.findSome?_eq_none_iff.mpr h, Option.none_or,
    List.findSome?_cons, List.findSome?_singleton]
  cases Format.namedMonth.read? s <;> rfl

section Slashes

variable {a b y : Text} (ha : IsNumeral a) (hb : IsNumeral b) (hy : IsNumeral y)

/-- The date of three numerals for its month, its day and its year, of which the first two have two
digits at most and the last four. -/
def numericDate? (month day year : Text) : Option Date :=
  if month.length ≤ 2 ∧ day.length ≤ 2 ∧ year.length = 4 then
    Date.ofNumbers? (numberOfPlain year) (numberOfPlain month) (numberOfPlain day)
  else none

include ha hb hy

theorem read?_slashes {part part' : Part} {bounds bounds' : Nat × Nat}
    (hbounds : part.bounds? = some bounds) (hbounds' : part'.bounds? = some bounds') :
    (Format.slashes part part').read? (a ++ '/' :: (b ++ '/' :: y)) =
      if (a.length ≤ 2 ∧ bounds.1 ≤ numberOfPlain a ∧ numberOfPlain a ≤ bounds.2) ∧
          (b.length ≤ 2 ∧ bounds'.1 ≤ numberOfPlain b ∧ numberOfPlain b ≤ bounds'.2) ∧
          y.length = 4 then
        Fields.stamp? (((Fields.set {} (numberOfPlain a) part).set (numberOfPlain b) part').set
          (numberOfPlain y) .year) false
      else none := by
  have hread : readParts (Format.slashes part part').parts {} (a ++ '/' :: (b ++ '/' :: y)) =
      (part.wholes a).flatMap fun m => (part'.wholes b).flatMap fun n =>
        readParts [.year] ((Fields.set {} m part).set n part') y := by
    have hslash : ∀ parts, RefusesDigits (.mark '/' :: parts) := refusesDigits_mark (by decide)
    rw [Format.slashes, readParts_digits (spellings_of_bounds hbounds).1 (hslash _) ha
      (by rintro c ⟨⟩; decide)]
    refine congrArg (List.flatMap · _) (funext fun m => ?_)
    rw [readParts_mark, readParts_digits (spellings_of_bounds hbounds').1 (hslash _) hb
      (by rintro c ⟨⟩; decide)]
    exact congrArg (List.flatMap · _) (funext fun n => readParts_mark _ _ _ _)
  rw [wholes_of_bounds hbounds ha, wholes_of_bounds hbounds' hb] at hread
  split_ifs with hall
  · obtain ⟨hfirst, hsecond, hyear⟩ := hall
    rw [if_pos hfirst, if_pos hsecond, List.flatMap_singleton, List.flatMap_singleton,
      readParts_year hy _ hyear] at hread
    exact read?_of_head (by rw [hread]; rfl)
  · apply read?_of_unread
    intro found hfound hend
    rw [hread] at hfound
    obtain ⟨m, hm, hfound⟩ := List.mem_flatMap.mp hfound
    obtain ⟨n, hn, hfound⟩ := List.mem_flatMap.mp hfound
    have hyear := length_of_readParts_year hy _ hfound hend
    split_ifs at hm hn with hfirst hsecond
    · exact hall ⟨hfirst, hsecond, hyear⟩
    all_goals simp at hm hn

omit ha hb hy in
private theorem bounds_of_ofNumbers? {year month day : Nat} {date : Date}
    (h : Date.ofNumbers? year month day = some date) :
    (1 ≤ month ∧ month ≤ 12) ∧ 1 ≤ day ∧ day ≤ 31 := by
  unfold Date.ofNumbers? at h
  split_ifs at h with hdate
  obtain ⟨_, _, hmonth, hmonth', hday, hday'⟩ := hdate
  exact ⟨⟨hmonth, hmonth'⟩, hday, hday'.trans (daysInMonth_le _ hmonth hmonth')⟩

omit ha hb hy in
/-- Fields that no part of a format reads name no date. -/
private theorem stamp?_of_bounds (month day year : Text) :
    (if (month.length ≤ 2 ∧ 1 ≤ numberOfPlain month ∧ numberOfPlain month ≤ 12) ∧
        (day.length ≤ 2 ∧ 1 ≤ numberOfPlain day ∧ numberOfPlain day ≤ 31) ∧ year.length = 4 then
      Fields.stamp? { year := numberOfPlain year, month := numberOfPlain month,
                      day := numberOfPlain day } false
    else none) = (numericDate? month day year).map .ofDate := by
  rw [Fields.stamp?_date, numericDate?]
  cases hdate : Date.ofNumbers? (numberOfPlain year) (numberOfPlain month) (numberOfPlain day) with
  | none => split_ifs <;> rfl
  | some date => simp [bounds_of_ofNumbers? hdate, Stamp.ofDate, apply_ite]

/-- Numbers between slashes are an explicit date if they name one with the month in front or,
failing that, with the day in front. -/
theorem stamp?_slashes : stamp? (a ++ '/' :: (b ++ '/' :: y)) =
    ((numericDate? a b y).or (numericDate? b a y)).map .ofDate := by
  have hinstant : Format.instant.read? (a ++ '/' :: (b ++ '/' :: y)) = none :=
    read?_of_nil (readParts_of_mark_ne (by decide) ha (by decide) (by decide) (by decide))
  have hstandard : Format.standard.read? (a ++ '/' :: (b ++ '/' :: y)) = none :=
    read?_of_nil (readParts_of_mark_ne (by decide) ha (by decide) (by decide) (by decide))
  have hmonth : (Format.slashes .month .day).read? (a ++ '/' :: (b ++ '/' :: y)) =
      (numericDate? a b y).map .ofDate := by
    rw [read?_slashes ha hb hy rfl rfl]
    exact stamp?_of_bounds a b y
  have hday : (Format.slashes .day .month).read? (a ++ '/' :: (b ++ '/' :: y)) =
      (numericDate? b a y).map .ofDate := by
    rw [read?_slashes ha hb hy rfl rfl, if_congr and_left_comm rfl rfl]
    exact stamp?_of_bounds b a y
  have hnamedMonth : Format.namedMonth.read? (a ++ '/' :: (b ++ '/' :: y)) = none :=
    read?_of_nil (readParts_monthName_of_numeral _ _ _ ha)
  have hnamedDay : Format.namedDay.read? (a ++ '/' :: (b ++ '/' :: y)) = none := by
    refine read?_of_nil ?_
    rw [Format.namedDay, readParts_digits (by decide) (refusesDigits_blanks _) ha
      (by rintro c ⟨⟩; decide)]
    exact List.flatMap_eq_nil_iff.mpr fun _ _ => readParts_blanks_of_not_blank _ _ _ (by decide)
  rw [stamp?, formats_eq, numericFormats]
  simp only [List.cons_append, List.nil_append, List.findSome?_cons, List.findSome?_nil, hinstant,
    hstandard, hmonth, hday, hnamedMonth, hnamedDay]
  cases numericDate? a b y with
  | some date => rfl
  | none => cases numericDate? b a y <;> rfl

end Slashes

section Dates

variable (date : Date)

private theorem month_day_bounds :
    (1 ≤ date.month ∧ date.month ≤ 12) ∧ 1 ≤ date.day ∧ date.day ≤ 31 := by
  obtain ⟨_, _, hmonth, hmonth', hday, hday'⟩ := date.inCalendar
  exact ⟨⟨hmonth, hmonth'⟩, hday, hday'.trans (daysInMonth_le _ hmonth hmonth')⟩

private theorem length_paddedYear : (padded 4 date.year).length = 4 :=
  length_padded (by decide) (Nat.lt_succ_of_le date.inCalendar.2.1)

omit date in
/-- A local time with a `Z` behind it is a universal time. -/
theorem stamp?_instant {t : LocalTime} (hmicro : t.micro = 0) :
    stamp? (t.text ++ ['Z']) = some ⟨t.date, t.time, true⟩ := by
  obtain ⟨date, time, micro, again, hlt⟩ := t
  obtain rfl : micro = 0 := hmicro
  have htext : LocalTime.text ⟨date, time, 0, again, hlt⟩ ++ ['Z'] =
      padded 4 date.year ++ '-' :: (padded 2 date.month ++ '-' :: (padded 2 date.day ++
        'T' :: (padded 2 time.hour ++ ':' :: (padded 2 time.minute ++
          ':' :: (padded 2 time.second ++ ['Z']))))) := by
    simp [LocalTime.text, Date.text, TimeOfDay.text]
  obtain ⟨hmonth, hday⟩ := month_day_bounds date
  obtain ⟨hhour, hminute, hsecond⟩ := time.inDay
  have hread : (readParts Format.instant.parts {}
      (LocalTime.text ⟨date, time, 0, again, hlt⟩ ++ ['Z'])).head? = some
      (⟨date.year, date.month, date.day, time.hour, time.minute, time.second⟩, []) := by
    rw [htext, Format.instant, readParts_paddedYear_mark (by decide) date.inCalendar.2.1,
      readParts_padded_mark (by decide) .month rfl le_rfl hmonth,
      readParts_padded_mark (by decide) .day rfl le_rfl hday,
      readParts_padded_mark (by decide) .hour rfl le_rfl ⟨Nat.zero_le _, Nat.le_of_lt_succ hhour⟩,
      readParts_padded_mark (by decide) .minute rfl le_rfl
        ⟨Nat.zero_le _, Nat.le_of_lt_succ hminute⟩,
      readParts_padded_mark (by decide) .second rfl le_rfl
        ⟨Nat.zero_le _, (Nat.le_of_lt_succ hsecond).trans (by decide)⟩]
    rfl
  have htime : TimeOfDay.ofFields time.hour time.minute time.second = .ok time := by
    rw [TimeOfDay.ofFields, if_neg (by omega), if_neg (by omega),
      dif_pos (by simpa using time.inDay), if_neg (by omega)]
    rfl
  rw [stamp?, formats_eq, numericFormats, List.cons_append, List.findSome?_cons,
    read?_of_head hread, Fields.stamp?]
  simp only [Date.ofNumbers?_self, htime]
  rfl

variable {w w' : Nat} (hw : w ≤ 2) (hw' : w' ≤ 2)
include hw hw'

theorem stamp?_standard :
    stamp? (padded 4 date.year ++ '-' :: (padded w date.month ++ '-' :: padded w' date.day)) =
      some (.ofDate date) := by
  obtain ⟨hmonth, hday⟩ := month_day_bounds date
  have hinstant : Format.instant.read?
      (padded 4 date.year ++ '-' :: (padded w date.month ++ '-' :: padded w' date.day)) = none := by
    apply read?_of_nil
    rw [← List.append_nil (padded w' date.day), Format.instant,
      readParts_paddedYear_mark (by decide) date.inCalendar.2.1,
      readParts_padded_mark (by decide) .month rfl hw hmonth,
      readParts_padded .day rfl (refusesDigits_mark (by decide) _) hw' hday (by simp)]
    rfl
  have hread : (readParts Format.standard.parts {}
      (padded 4 date.year ++ '-' :: (padded w date.month ++ '-' :: padded w' date.day))).head? =
      some ({ year := date.year, month := date.month, day := date.day }, []) := by
    rw [Format.standard, readParts_paddedYear_mark (by decide) date.inCalendar.2.1,
      readParts_padded_mark (by decide) .month rfl hw hmonth,
      head?_readParts_day (isNumeral_padded w' date.day) _
        (length_padded_le hw' (by decide) (by omega)) (by rwa [numberOfPlain_padded]),
      numberOfPlain_padded]
    rfl
  rw [stamp?, formats_eq, numericFormats, List.cons_append, List.findSome?_cons, hinstant,
    List.cons_append, List.findSome?_cons, read?_of_head hread, Fields.stamp?_date,
    Date.ofNumbers?_self]
  rfl

omit hw in
theorem stamp?_namedMonth :
    stamp? (monthAbbreviation date.month ++ ' ' :: (padded w' date.day ++
      ',' :: ' ' :: padded 4 date.year)) = some (.ofDate date) := by
  obtain ⟨hmonth, hday⟩ := month_day_bounds date
  have hnone : ∀ format ∈ numericFormats, format.read? (monthAbbreviation date.month ++
      ' ' :: (padded w' date.day ++ ',' :: ' ' :: padded 4 date.year)) = none := by
    intro format hformat
    obtain ⟨part, mark, parts, hparts, hpart, _⟩ := parts_of_mem_numericFormats hformat
    apply read?_of_nil
    rw [hparts]
    exact readParts_of_monthName hmonth _ _ _ hpart
  have hread : (readParts Format.namedMonth.parts {} (monthAbbreviation date.month ++
      ' ' :: (padded w' date.day ++ ',' :: ' ' :: padded 4 date.year))).head? = some
      ({ year := date.year, month := date.month, day := date.day }, []) := by
    rw [Format.namedMonth, readParts_monthName hmonth,
      readParts_blank _ _ _ ((isNumeral_padded _ _).not_isBlank_head _),
      readParts_padded_mark (by decide) .day rfl hw' hday,
      readParts_blank _ _ _ (by simpa using (isNumeral_padded 4 date.year).not_isBlank_head []),
      readParts_year (isNumeral_padded _ _) _ (length_paddedYear date), numberOfPlain_padded]
    rfl
  rw [stamp?_of_not_numeric hnone, read?_of_head hread, Fields.stamp?_date, Date.ofNumbers?_self]
  rfl

omit hw in
theorem stamp?_namedDay :
    stamp? (padded w' date.day ++ ' ' :: (monthAbbreviation date.month ++
      ' ' :: padded 4 date.year)) = some (.ofDate date) := by
  obtain ⟨hmonth, hday⟩ := month_day_bounds date
  have hnone : ∀ format ∈ numericFormats, format.read? (padded w' date.day ++
      ' ' :: (monthAbbreviation date.month ++ ' ' :: padded 4 date.year)) = none := by
    intro format hformat
    obtain ⟨part, mark, parts, hparts, hpart, hmark⟩ := parts_of_mem_numericFormats hformat
    have hmark' : mark ∈ separators ∧ foldChar ' ' ≠ foldChar mark := by
      simp only [List.mem_cons, List.not_mem_nil, or_false] at hmark
      rcases hmark with rfl | rfl <;> decide
    apply read?_of_nil
    rw [hparts]
    exact readParts_of_mark_ne hpart (isNumeral_padded _ _) hmark'.1 (by decide) hmark'.2
  have hnamedMonth : Format.namedMonth.read? (padded w' date.day ++
      ' ' :: (monthAbbreviation date.month ++ ' ' :: padded 4 date.year)) = none :=
    read?_of_nil (readParts_monthName_of_numeral _ _ _ (isNumeral_padded _ _))
  have hread : (readParts Format.namedDay.parts {} (padded w' date.day ++
      ' ' :: (monthAbbreviation date.month ++ ' ' :: padded 4 date.year))).head? = some
      ({ year := date.year, month := date.month, day := date.day }, []) := by
    rw [Format.namedDay,
      readParts_padded .day rfl (refusesDigits_blanks _) hw' hday (by rintro c ⟨⟩; decide),
      readParts_blank _ _ _ (not_isBlank_monthAbbreviation hmonth _), readParts_monthName hmonth,
      readParts_blank _ _ _ (by simpa using (isNumeral_padded 4 date.year).not_isBlank_head []),
      readParts_year (isNumeral_padded _ _) _ (length_paddedYear date), numberOfPlain_padded]
    rfl
  rw [stamp?_of_not_numeric hnone, hnamedMonth, Option.none_or, read?_of_head hread,
    Fields.stamp?_date, Date.ofNumbers?_self]
  rfl

end Dates

/-- A date in the forms that are not taken for another date: in standard notation, with the month in
front, and with the name of the month in front or behind the day. The month and the day are padded
to a width. -/
def dateForms (width width' : Nat) (date : Date) : List Text :=
  let month := padded width date.month
  let day := padded width' date.day
  let year := padded 4 date.year
  let name := monthAbbreviation date.month
  [year ++ '-' :: (month ++ '-' :: day), month ++ '/' :: (day ++ '/' :: year),
    name ++ ' ' :: (day ++ ',' :: ' ' :: year), day ++ ' ' :: (name ++ ' ' :: year)]

/-- A date between slashes with the day in front of the month. -/
def dayFirst (width width' : Nat) (date : Date) : Text :=
  padded width' date.day ++ '/' :: (padded width date.month ++ '/' :: padded 4 date.year)

/-- The month of a date and a day of the first twelve can change places. -/
theorem exists_exchanged {date : Date} (hearly : date.day ≤ 12) :
    ∃ other, Date.ofNumbers? date.year date.day date.month = some other ∧
      (other.year, other.month, other.day) = (date.year, date.day, date.month) := by
  have hinCalendar := date.inCalendar
  obtain ⟨_, hday⟩ := month_day_bounds date
  -- every month is long enough for the number of a month
  have hlong := le_daysInMonth date.year hday.1 hearly
  rw [Date.ofNumbers?, dif_pos (by omega)]
  exact ⟨_, rfl, rfl⟩

section Forms

variable {w w' : Nat} (hw : w ≤ 2) (hw' : w' ≤ 2)
include hw hw'

theorem numericDate?_padded {year month day : Nat} (hyear : year ≤ 9999) (hmonth : month < 100)
    (hday : day < 100) : numericDate? (padded w month) (padded w' day) (padded 4 year) =
      Date.ofNumbers? year month day := by
  have hlength : (padded 4 year).length = 4 := length_padded (by decide) (Nat.lt_succ_of_le hyear)
  rw [numericDate?, numberOfPlain_padded, numberOfPlain_padded, numberOfPlain_padded,
    if_pos ⟨length_padded_le hw (by decide) hmonth, length_padded_le hw' (by decide) hday, hlength⟩]

theorem stamp?_dateForms {date : Date} {text : Text} (htext : text ∈ dateForms w w' date) :
    stamp? text = some (.ofDate date) := by
  simp only [dateForms, List.mem_cons, List.not_mem_nil, or_false] at htext
  rcases htext with rfl | rfl | rfl | rfl
  · exact stamp?_standard date hw hw'
  · obtain ⟨hmonth, hday⟩ := month_day_bounds date
    rw [stamp?_slashes (isNumeral_padded _ _) (isNumeral_padded _ _) (isNumeral_padded _ _),
      numericDate?_padded hw hw' date.inCalendar.2.1 (by omega) (by omega), Date.ofNumbers?_self]
    rfl
  · exact stamp?_namedMonth date hw'
  · exact stamp?_namedDay date hw'

/-- With the day in front the month is read first, so that a day of the first twelve changes places
with it. -/
theorem stamp?_dayFirst (date : Date) : stamp? (dayFirst w w' date) =
    some (.ofDate ((Date.ofNumbers? date.year date.day date.month).getD date)) := by
  obtain ⟨hmonth, hday⟩ := month_day_bounds date
  have hyear := date.inCalendar.2.1
  rw [dayFirst, stamp?_slashes (isNumeral_padded _ _) (isNumeral_padded _ _) (isNumeral_padded _ _),
    numericDate?_padded hw' hw hyear (by omega) (by omega),
    numericDate?_padded hw hw' hyear (by omega) (by omega), Date.ofNumbers?_self]
  cases Date.ofNumbers? date.year date.day date.month <;> rfl

omit hw hw' in
theorem trim_dateForms {date : Date} {text : Text} (htext : text ∈ dateForms w w' date) :
    trim text = text := by
  have hmonth := (month_day_bounds date).1
  simp only [dateForms, List.mem_cons, List.not_mem_nil, or_false] at htext
  rcases htext with rfl | rfl | rfl | rfl
  · apply trim_of_ends ((isNumeral_padded 4 date.year).not_isBlank_head _)
    simpa using (isNumeral_padded w' date.day).not_isBlank_last
      (padded 4 date.year ++ '-' :: (padded w date.month ++ ['-']))
  · apply trim_of_ends ((isNumeral_padded w date.month).not_isBlank_head _)
    simpa using (isNumeral_padded 4 date.year).not_isBlank_last
      (padded w date.month ++ '/' :: (padded w' date.day ++ ['/']))
  · apply trim_of_ends (not_isBlank_monthAbbreviation hmonth _)
    simpa using (isNumeral_padded 4 date.year).not_isBlank_last
      (monthAbbreviation date.month ++ ' ' :: (padded w' date.day ++ [',', ' ']))
  · apply trim_of_ends ((isNumeral_padded w' date.day).not_isBlank_head _)
    simpa using (isNumeral_padded 4 date.year).not_isBlank_last
      (padded w' date.day ++ ' ' :: (monthAbbreviation date.month ++ [' ']))

end Forms

/-- Numbers between slashes have no blank at either end. -/
theorem trim_slashes {a b y : Text} (ha : IsNumeral a) (hy : IsNumeral y) :
    trim (a ++ '/' :: (b ++ '/' :: y)) = a ++ '/' :: (b ++ '/' :: y) := by
  apply trim_of_ends (ha.not_isBlank_head _)
  simpa using hy.not_isBlank_last (a ++ '/' :: (b ++ ['/']))

/-- A universal time has no blank at either end. -/
theorem trim_instant (t : LocalTime) : trim (t.text ++ ['Z']) = t.text ++ ['Z'] := by
  apply trim_of_ends
  · simp only [LocalTime.text, Date.text, List.append_assoc]
    exact (isNumeral_padded 4 t.date.year).not_isBlank_head _
  · rw [List.getLast?_concat]
    rintro c ⟨⟩
    rfl

/-- The second of the midnight of a date: the first second of the local day, at which the clock
shows midnight for the only time. -/
structure IsMidnight (z : Zone) (date : Date) (second : Int) : Prop where
  dayStart_eq : z.dayStart date = .ok second
  showsOnce : z.ShowsOnce (86400 * date.dayNumber) second

section Resolve

variable (clock : WallClock) (anchor : Anchor)

/-- An explicit date stands for its second, whatever the anchor. -/
theorem resolve_of_stamp? {text : Text} {stamp : Stamp} (htrim : trim text = text)
    (hstamp : stamp? text = some stamp) :
    resolve clock anchor (some text) = some <$> stamp.second clock.zone := by
  rw [resolve_eq, htrim, hstamp]

/-- A universal time stands for the second that it shows. -/
theorem resolve_instant {t : LocalTime} (hmicro : t.micro = 0) :
    resolve clock anchor (some (t.text ++ ['Z'])) = .ok (some t.reading) := by
  rw [resolve_of_stamp? clock anchor (trim_instant t) (stamp?_instant hmicro)]
  rfl

/-- A date stands for its midnight. -/
theorem resolve_ofDate {text : Text} (htrim : trim text = text) {date : Date}
    (hstamp : stamp? text = some (.ofDate date)) {second : Int}
    (hsecond : IsMidnight clock.zone date second) :
    resolve clock anchor (some text) = .ok (some second) := by
  have hstart : (Stamp.ofDate date).second clock.zone = clock.zone.dayStart date := rfl
  rw [resolve_of_stamp? clock anchor htrim hstamp, hstart, hsecond.dayStart_eq]
  rfl

theorem exists_isMidnight {date : Date} (hyear : 2 ≤ date.year) :
    ∃ second, IsMidnight clock.zone date second := by
  obtain ⟨second, hstart, hshows⟩ := Zone.exists_midnight clock.zone hyear
  exact ⟨second, hstart, hshows⟩

/-- Explicit due dates mean what they write. Every universal time of the calendar is read back as
its second. Every date from the second year on is read as its midnight in each of its forms, and so
it is with the day in front of the month between slashes if the day is none of the first twelve. If
it is, then the two change places. -/
theorem resolve_explicit :
    (∀ second, Zone.InSpan second → ∃ shown, LocalTime.ofReading second 0 false = .ok shown ∧
        resolve clock anchor (some (shown.text ++ ['Z'])) = .ok (some second)) ∧
      ∀ date : Date, 2 ≤ date.year → ∃ second, IsMidnight clock.zone date second ∧
        ∀ width ≤ 2, ∀ width' ≤ 2,
          (∀ text ∈ dateForms width width' date,
            resolve clock anchor (some text) = .ok (some second)) ∧
          (12 < date.day →
            resolve clock anchor (some (dayFirst width width' date)) = .ok (some second)) ∧
          (date.day ≤ 12 → ∃ (other : Date) (otherSecond : Int),
            (other.year, other.month, other.day) = (date.year, date.day, date.month) ∧
            IsMidnight clock.zone other otherSecond ∧
            resolve clock anchor (some (dayFirst width width' date)) = .ok (some otherSecond)) := by
  constructor
  · intro second hsecond
    obtain ⟨shown, hshown⟩ := Zone.exists_ofReading hsecond 0 false
    obtain ⟨_, hreading, hmicro, _⟩ := Zone.ofReading_spec hshown
    exact ⟨shown, hshown, hreading ▸ resolve_instant clock anchor hmicro⟩
  intro date hyear
  obtain ⟨second, hsecond⟩ := exists_isMidnight clock hyear
  refine ⟨second, hsecond, fun w hw w' hw' => ?_⟩
  obtain ⟨hmonth, hday⟩ := month_day_bounds date
  have htrim : trim (dayFirst w w' date) = dayFirst w w' date :=
    trim_slashes (isNumeral_padded _ _) (isNumeral_padded _ _)
  have hstamp := stamp?_dayFirst hw hw' date
  refine ⟨fun text htext => ?_, fun hlate => ?_, fun hearly => ?_⟩
  · exact resolve_ofDate clock anchor (trim_dateForms htext) (stamp?_dateForms hw hw' htext) hsecond
  · have hnone : Date.ofNumbers? date.year date.day date.month = none := by
      rw [Date.ofNumbers?, dif_neg (by omega)]
    rw [hnone] at hstamp
    exact resolve_ofDate clock anchor htrim hstamp hsecond
  · obtain ⟨other, hother, hfields⟩ := exists_exchanged hearly
    rw [hother] at hstamp
    have hotherYear : 2 ≤ other.year := by
      rw [(Prod.mk.inj hfields).1]
      exact hyear
    obtain ⟨otherSecond, hotherSecond⟩ := exists_isMidnight clock hotherYear
    exact ⟨other, otherSecond, hfields, hotherSecond,
      resolve_ofDate clock anchor htrim hstamp hotherSecond⟩

/-- Days of March 2026 in the zone with summer from March to November. The fourth of March, with its
day in front, is read as the third of April. -/
theorem resolve_explicit_march :
    let clock : WallClock := ⟨.eastAmerica, .ofInt 0⟩
    resolve clock .present (some "2026-03-05T00:00:00Z".toList) = .ok (some 1772668800) ∧
      resolve clock .present (some "Mar 25, 2026".toList) = .ok (some 1774411200) ∧
      resolve clock .present (some "25/3/2026".toList) = .ok (some 1774411200) ∧
      resolve clock .present (some "04/03/2026".toList) = .ok (some 1775188800) := by
  intro clock
  obtain ⟨hinstants, hdates⟩ := resolve_explicit clock .present
  refine ⟨?_, ?_⟩
  · obtain ⟨shown, hshown, hread⟩ := hinstants 1772668800 ⟨by decide, by decide⟩
    cases hshown
    exact hread
  obtain ⟨second, hmidnight, hforms⟩ := hdates ⟨2026, 3, 25, by decide⟩ (by decide)
  have hstart : clock.zone.dayStart ⟨2026, 3, 25, by decide⟩ = .ok 1774411200 := by decide +kernel
  obtain rfl := Except.ok.inj (hmidnight.dayStart_eq.symm.trans hstart)
  obtain ⟨hread, hlate, _⟩ := hforms 1 (by decide) 1 (by decide)
  refine ⟨hread _ (by decide), hlate (by decide), ?_⟩
  obtain ⟨_, _, hforms⟩ := hdates ⟨2026, 3, 4, by decide⟩ (by decide)
  obtain ⟨_, _, hearly⟩ := hforms 2 (by decide) 2 (by decide)
  obtain ⟨⟨year, month, day, hday⟩, other, hfields, hmidnight, hread⟩ := hearly (by decide)
  cases hfields
  have hstart : clock.zone.dayStart ⟨2026, 4, 3, by decide⟩ = .ok 1775188800 := by decide +kernel
  obtain rfl := Except.ok.inj (hmidnight.dayStart_eq.symm.trans hstart)
  exact hread

end Resolve

end Agenda.DueDate
