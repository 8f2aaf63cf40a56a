import Agenda.DueDate.Wording
import Agenda.Proofs.Phrase.Beginning
import Agenda.Proofs.Phrase.Morning
import Agenda.Proofs.Text.Numeral
import Mathlib

/-!
Due dates in words are read back. The words for a day of the coming year, except today, are a phrase
for the morning of that day: each of the three forms in which a day is worded is recognized by one
rule of the grammar, which comes to the same day again.
-/

namespace Agenda.Phrase

open Calendar Clock Scanner Text

section Forms

/-- A padded numeral is read up to the first code point that is no digit. -/
theorem numeral_padded {width n : Nat} (hlength : (padded width n).length ≤ maxDigits) {c : Char}
    (hc : isPlainDigit c = false) (rest : Text) :
    numeral (padded width n ++ c :: rest) = .accept n (c :: rest) := by
  have hdigits := isNumeral_padded width n
  rw [numeral_run hdigits (by simpa using hc), Scanner.numberOf, if_neg hdigits.ne_nil,
    if_neg (by omega), numberOfPlain_padded]

variable (rest : Text)

/-- "Tomorrow" is read as the day after today, whatever the day is. -/
theorem relative_tomorrow (today : Date) :
    relative today ("Tomorrow".toList ++ ' ' :: rest) = .accept (.morning 1) (' ' :: rest) := by
  rfl

section Weekday

variable {day : Nat} (hday : day < 7)
include hday

theorem monthDay_weekdayName :
    monthDay (capitalized (weekdayNames.getD day []) ++ ' ' :: rest) = .reject := by
  interval_cases day <;> rfl

theorem weekday_weekdayName :
    weekday (trimStart (capitalized (weekdayNames.getD day []) ++ ' ' :: rest)) =
      .accept day (' ' :: rest) := by
  interval_cases day <;> rfl

end Weekday

section MonthDay

variable {month day : Nat} (hmonth : 1 ≤ month ∧ month ≤ 12)
include hmonth

private theorem trimStart_monthName :
    trimStart (capitalized ((monthNames.getD (month - 1) []).take 3) ++ ' ' :: rest) =
      capitalized ((monthNames.getD (month - 1) []).take 3) ++ ' ' :: rest := by
  obtain ⟨hfirst, hlast⟩ := hmonth
  interval_cases month <;> rfl

private theorem month_monthName :
    Phrase.month (capitalized ((monthNames.getD (month - 1) []).take 3) ++ ' ' :: rest) =
      .accept month (' ' :: rest) := by
  obtain ⟨hfirst, hlast⟩ := hmonth
  interval_cases month <;> rfl

omit hmonth in
/-- In front of a digit blanks are skipped, and no comma is read. -/
private theorem skip_to_digit {c : Char} (hdigit : isPlainDigit c = true) (more : Text) :
    trimStart (' ' :: c :: more) = c :: more ∧ trimStart (c :: more) = c :: more ∧
      Scanner.optional (literal [',']) (c :: more) = .accept none (c :: more) := by
  have hstay : trimStart (c :: more) = c :: more :=
    List.dropWhile_cons_of_neg (by simp [not_isBlank_of_isPlainDigit hdigit])
  have hrange := toNat_of_isPlainDigit hdigit
  refine ⟨hstay, hstay, optional_of_reject ?_⟩
  by_contra hcomma
  have hfront := prefix_of_literal (by decide) hcomma
  rw [List.map_cons, foldChar_plain (by omega) (by omega)] at hfront
  have hsame : ',' = c := (List.cons_prefix_cons.mp hfront).1
  rw [← hsame] at hrange
  exact absurd hrange.1 (by decide)

/-- The first letters of a month and a day of two digits are read as that month and day. -/
theorem monthDay_monthName (hday : 1 ≤ day ∧ day ≤ 31) :
    monthDay (capitalized ((monthNames.getD (month - 1) []).take 3) ++
      ' ' :: (padded 2 day ++ ' ' :: rest)) = .accept (month, day) (' ' :: rest) := by
  have hlength : (padded 2 day).length = 2 := length_padded (by decide) (by omega)
  obtain ⟨c, more, hpadded⟩ := List.exists_cons_of_length_eq_add_one hlength
  have hdigit : isPlainDigit c = true :=
    isPlainDigit_of_mem_padded (hpadded ▸ List.mem_cons_self)
  obtain ⟨hskip, hstay, hcomma⟩ := skip_to_digit hdigit (more ++ ' ' :: rest)
  rw [← List.cons_append, ← hpadded] at hskip hstay hcomma
  have hnumeral : numeral (padded 2 day ++ ' ' :: rest) = .accept day (' ' :: rest) :=
    numeral_padded (by rw [hlength]; decide) rfl rest
  have hpoint : literal ['.'] (' ' :: (padded 2 day ++ ' ' :: rest)) = .reject := rfl
  have hrange : (decide (1 ≤ day) && decide (day ≤ 31)) = true := by simp [hday]
  unfold monthDay
  rw [bind_of_accept (blanks_text _), trimStart_monthName _ hmonth,
    bind_of_accept (month_monthName _ hmonth),
    bind_of_accept (optional_of_reject hpoint),
    bind_of_accept (blanks_text _), hskip, bind_of_accept hcomma, bind_of_accept (blanks_text _),
    hstay, bind_of_accept hnumeral, hrange]
  rfl

end MonthDay

end Forms

end Agenda.Phrase

namespace Agenda.DueDate

open Calendar Clock Phrase

section

variable {z : Zone} {now : LocalTime} (hyear : 2 ≤ now.date.year ∧ now.date.year ≤ 9998)
  (hmicro : now.micro = 0) {date : Date}
include hyear

/-- Whatever follows it, "Tomorrow" means the morning of the next day. -/
theorem readRelative_tomorrow (hahead : date.dayNumber - now.date.dayNumber = 1) (rest : Text) :
    readRelative z now ("Tomorrow".toList ++ ' ' :: rest) =
      some <$> z.toTimestamp (.on date .morning) := by
  unfold readRelative
  rw [relative_tomorrow rest now.date]
  dsimp only
  rw [← hahead, morningAfter_eq hyear z (by omega)]

/-- Whatever follows it, the name of the weekday of a day of the coming week means its morning. -/
theorem readAbsolute_weekdayName
    (hahead : 1 ≤ date.dayNumber - now.date.dayNumber ∧ date.dayNumber - now.date.dayNumber ≤ 7)
    (rest : Text) :
    readAbsolute z now (capitalized (weekdayNames.getD date.weekday []) ++ ' ' :: rest) =
      some <$> z.toTimestamp (.on date .morning) := by
  have hdays : now.date.daysUntil date.weekday = date.dayNumber - now.date.dayNumber := by
    unfold Date.daysUntil Date.weekday weekdayOf
    omega
  unfold readAbsolute
  rw [monthDay_weekdayName rest date.weekday_lt]
  dsimp only
  rw [weekday_weekdayName rest date.weekday_lt]
  dsimp only
  rw [hdays, morningAfter_eq hyear z hahead]

include hmicro in
/-- Whatever follows them, the month and the day of a day of the coming year mean its morning. -/
theorem readAbsolute_monthName
    (hahead : 1 ≤ date.dayNumber - now.date.dayNumber ∧
      date.dayNumber - now.date.dayNumber ≤ 364) (rest : Text) :
    readAbsolute z now (capitalized ((monthNames.getD (date.month - 1) []).take 3) ++
      ' ' :: (Text.padded 2 date.day ++ ' ' :: rest)) =
        some <$> z.toTimestamp (.on date .morning) := by
  obtain ⟨_, _, hmonth, hmonth', hday, hday'⟩ := date.inCalendar
  have hlength := daysInMonth_le date.year hmonth hmonth'
  unfold readAbsolute
  rw [monthDay_monthName rest ⟨hmonth, hmonth'⟩ ⟨hday, by omega⟩]
  dsimp only
  rw [nextMonthDay_eq hyear hmicro z hahead]

include hmicro in
/-- Whatever follows it, the wording of a day of the coming year is a phrase for its morning. -/
theorem firstRule_dayText
    (hahead : 1 ≤ date.dayNumber - now.date.dayNumber ∧
      date.dayNumber - now.date.dayNumber ≤ 364) (rest : Text) :
    firstRule rules z now (dayText now.date date ++ ' ' :: rest) =
      some <$> z.toTimestamp (.on date .morning) := by
  have hrule : ∃ rule ∈ rules, rule z now (dayText now.date date ++ ' ' :: rest) =
      some <$> z.toTimestamp (.on date .morning) := by
    unfold dayText
    dsimp only
    rw [if_neg (by omega)]
    split_ifs with htomorrow hweek
    · exact ⟨readRelative, by simp [rules], readRelative_tomorrow hyear htomorrow rest⟩
    · exact ⟨readAbsolute, by simp [rules], readAbsolute_weekdayName hyear (by omega) rest⟩
    · refine ⟨readAbsolute, by simp [rules], ?_⟩
      rw [List.append_assoc, List.cons_append]
      exact readAbsolute_monthName hyear hmicro hahead rest
  obtain ⟨rule, hmem, heq⟩ := hrule
  have hlater : 2 ≤ date.year := hyear.1.trans (Date.year_mono (by omega))
  obtain ⟨second, hsecond, _⟩ := Zone.exists_morning z hlater
  rw [← heq]
  apply firstRule_of_mem (fun _ => id) hmem
  rw [heq, hsecond]
  intro hnone
  cases hnone

end

/-- Due dates in words are read back. From any anchor of whole seconds in the years 2 to 9998, the
morning of each of the 364 days after today has a second, the second has words, and the words are a
phrase for that second. -/
theorem resolve_wording {clock : WallClock} {anchor : Anchor} {now : LocalTime}
    (hnow : clock.resolve anchor = .ok now) (hmicro : now.micro = 0)
    (hyear : 2 ≤ now.date.year ∧ now.date.year ≤ 9998) {date : Date}
    (hahead : 1 ≤ date.dayNumber - now.date.dayNumber ∧
      date.dayNumber - now.date.dayNumber ≤ 364) :
    ∃ second words, clock.zone.toTimestamp (.on date .morning) = .ok second ∧
      wording clock anchor (instant? second) = .ok words ∧
      Phrase.resolve clock anchor (some words) = .ok (some second) := by
  have hlater : 2 ≤ date.year := hyear.1.trans (Date.year_mono (by omega))
  obtain ⟨second, shown, hsecond, hshown, hdate, htime, hne⟩ :=
    Zone.exists_toLocal_morning clock.zone hlater
  refine ⟨second, dayText now.date date ++ ' ' :: ("at ".toList ++ clockText .morning), hsecond,
    ?_, ?_⟩
  · rw [instant?, if_neg hne]
    unfold wording
    dsimp only
    rw [hshown, hnow]
    simp only [bind, Except.bind, hdate, htime, List.append_assoc]
    rfl
  · rw [resolve_eq_firstRule hnow, firstRule_dayText hyear hmicro hahead, hsecond]
    rfl

/-- A year ahead of a leap day its words leave the year out. The day of this year that they could
mean runs on into March and has gone by. -/
theorem resolve_wording_leap_day :
    let clock : WallClock := ⟨.eastAmerica, .ofInt 0⟩
    let noon : LocalTime := .on ⟨2027, 3, 5, by decide⟩ ⟨12, 0, 0, by decide⟩
    wording clock (.localTime noon) (instant? 1835445600) = .ok "Feb 29 at 9:00 AM".toList ∧
      Phrase.resolve clock (.localTime noon) (some "Feb 29 at 9:00 AM".toList) =
        .ok (some 1835445600) := by
  intro clock noon
  have hnow : clock.resolve (.localTime noon) = .ok noon := rfl
  have hday : clock.zone.toTimestamp (.on ⟨2028, 2, 29, by decide⟩ .morning) =
      .ok 1835445600 := by decide
  have hwords : wording clock (.localTime noon) (instant? 1835445600) =
      .ok "Feb 29 at 9:00 AM".toList := by decide +kernel
  have hahead : 1 ≤ Date.dayNumber ⟨2028, 2, 29, by decide⟩ - noon.date.dayNumber ∧
      Date.dayNumber ⟨2028, 2, 29, by decide⟩ - noon.date.dayNumber ≤ 364 := by decide +kernel
  obtain ⟨second, words, hsecond, hwording, hresolve⟩ :=
    resolve_wording hnow rfl (by decide) hahead
  cases hday.symm.trans hsecond
  cases hwords.symm.trans hwording
  exact ⟨hwords, hresolve⟩

end Agenda.DueDate
