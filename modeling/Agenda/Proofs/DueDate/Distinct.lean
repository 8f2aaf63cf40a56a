import Agenda.Proofs.DueDate.Wording
import Mathlib

/-!
Due dates in words leave out the seconds and the year, and nothing else. The last `t` of the words
ends the separator, so the words tell those of the day and those of the time of day. Each of the
two tells what it stands for, the day among the 365 days of any span.
-/

namespace Agenda.Calendar

theorem capitalized_weekday_inj {a b : Nat} (ha : a < 7) (hb : b < 7)
    (h : capitalized (weekdayNames.getD a []) = capitalized (weekdayNames.getD b [])) : a = b := by
  have hall : ∀ a < 7, ∀ b < 7, capitalized (weekdayNames.getD a []) =
      capitalized (weekdayNames.getD b []) → a = b := by decide
  exact hall a ha b hb h

/-- The first three letters of a month tell it from the others. -/
theorem capitalized_month_inj {a b : Nat} (ha : a < 12) (hb : b < 12)
    (h : capitalized ((monthNames.getD a []).take 3) =
      capitalized ((monthNames.getD b []).take 3)) : a = b := by
  have hall : ∀ a < 12, ∀ b < 12, capitalized ((monthNames.getD a []).take 3) =
      capitalized ((monthNames.getD b []).take 3) → a = b := by decide
  exact hall a ha b hb h

end Agenda.Calendar

namespace Agenda.Text

/-- A text is split in only one way at the last of a mark. -/
theorem eq_of_last_mark {c : Char} {a b x y : Text} (hx : c ∉ x) (hy : c ∉ y)
    (h : a ++ c :: x = b ++ c :: y) : a = b ∧ x = y := by
  have hfirst : ∀ {front rest rest' : Text}, c ∉ rest → c :: rest = front ++ c :: rest' →
      front = [] := by
    intro front rest rest' hrest hsplit
    cases front with
    | nil => rfl
    | cons d more =>
        obtain ⟨_, rfl⟩ := List.cons.inj hsplit
        exact absurd (List.mem_append_right more List.mem_cons_self) hrest
  rcases List.append_eq_append_iff.mp h with ⟨front, rfl, hsplit⟩ | ⟨front, rfl, hsplit⟩
  · obtain rfl := hfirst hx hsplit
    exact ⟨(List.append_nil a).symm, (List.cons.inj hsplit).2⟩
  · obtain rfl := hfirst hy hsplit
    exact ⟨List.append_nil b, (List.cons.inj hsplit).2.symm⟩

end Agenda.Text

namespace Agenda.DueDate

open Calendar Clock Phrase Text

/-- The half of the day that an hour lies in. -/
private def halfText (hour : Nat) : Text := if 12 ≤ hour then " PM".toList else " AM".toList

private theorem clockText_eq (time : TimeOfDay) :
    clockText time = padded 0 (if time.hour % 12 = 0 then 12 else time.hour % 12) ++
      ':' :: (padded 2 time.minute ++ halfText time.hour) := by
  unfold clockText halfText
  simp [padded, zeroPadded]

private theorem notMem_halfText {c : Char} (hmark : c ∉ " AMP".toList) (hour : Nat) :
    c ∉ halfText hour := by
  have hmarks : halfText hour ⊆ " AMP".toList := by
    unfold halfText
    split <;> decide
  exact fun hmem => hmark (hmarks hmem)

private theorem notMem_minute {c : Char} (hdigit : isPlainDigit c = false)
    (hmark : c ∉ " AMP".toList) (time : TimeOfDay) :
    c ∉ padded 2 time.minute ++ halfText time.hour := by
  rw [List.mem_append, not_or]
  exact ⟨notMem_padded hdigit 2 time.minute, notMem_halfText hmark time.hour⟩

private theorem notMem_clockText {c : Char} (hdigit : isPlainDigit c = false)
    (hcolon : c ≠ ':') (hmark : c ∉ " AMP".toList) (time : TimeOfDay) : c ∉ clockText time := by
  rw [clockText_eq, List.mem_append, List.mem_cons, not_or, not_or]
  exact ⟨notMem_padded hdigit _ _, hcolon, notMem_minute hdigit hmark time⟩

private theorem half_inj {a b : Nat} (h : halfText a = halfText b) : 12 ≤ a ↔ 12 ≤ b := by
  unfold halfText at h
  split_ifs at h with ha hb hb
  · exact iff_of_true ha hb
  · cases h
  · cases h
  · exact iff_of_false ha hb

/-- The time of day in words tells the hour and the minute, and not the second. -/
theorem clockText_eq_iff (a b : TimeOfDay) :
    clockText a = clockText b ↔ a.hour = b.hour ∧ a.minute = b.minute := by
  constructor
  · intro h
    have ha := a.inDay
    have hb := b.inDay
    rw [clockText_eq, clockText_eq] at h
    obtain ⟨hhour, hrest⟩ := eq_of_last_mark (notMem_minute rfl (by decide) a)
      (notMem_minute rfl (by decide) b) h
    have hlength : (padded 2 a.minute).length = (padded 2 b.minute).length := by
      rw [length_padded (by decide) (by omega), length_padded (by decide) (by omega)]
    obtain ⟨hminute, hhalf⟩ := List.append_inj hrest hlength
    have hnumber := padded_inj hhour
    have hsame := half_inj hhalf
    refine ⟨?_, padded_inj hminute⟩
    split_ifs at hnumber <;> omega
  · rintro ⟨hhour, hminute⟩
    rw [clockText_eq, clockText_eq, hhour, hminute]

/-- The ways in which a day is worded. -/
inductive DayForm where
  | today
  | tomorrow
  | weekday
  | monthDay

namespace DayForm

/-- The form for a day that is so many days ahead. -/
def ofAhead (ahead : Int) : DayForm :=
  if ahead = 0 then today
  else if ahead = 1 then tomorrow
  else if 1 < ahead ∧ ahead < 7 then weekday
  else monthDay

/-- The words for a date in a form. -/
def words (date : Date) : DayForm → Text
  | today => "Today".toList
  | tomorrow => "Tomorrow".toList
  | weekday => capitalized (weekdayNames.getD date.weekday [])
  | monthDay =>
    capitalized ((monthNames.getD (date.month - 1) []).take 3) ++ ' ' :: padded 2 date.day

/-- The days ahead that a form is for. -/
def IsFor (ahead : Int) : DayForm → Prop
  | today => ahead = 0
  | tomorrow => ahead = 1
  | weekday => 1 < ahead ∧ ahead < 7
  | monthDay => ahead < 0 ∨ 7 ≤ ahead

theorem isFor_ofAhead (ahead : Int) : (ofAhead ahead).IsFor ahead := by
  unfold ofAhead
  split_ifs <;> dsimp only [IsFor] <;> omega

theorem dayText_eq (now date : Date) :
    dayText now date = (ofAhead (date.dayNumber - now.dayNumber)).words date := by
  unfold dayText ofAhead
  dsimp only
  split_ifs <;> rfl

/-- The form of words by their first four letters. A month has a blank behind three. -/
def ofFront (words : Text) : DayForm :=
  if words.take 4 = "Toda".toList then today
  else if words.take 4 = "Tomo".toList then tomorrow
  else if ' ' ∈ words.take 4 then monthDay
  else weekday

/-- What comes behind four letters does not tell the form. -/
theorem ofFront_append {front : Text} (hlength : 4 ≤ front.length) (rest : Text) :
    ofFront (front ++ rest) = ofFront front := by
  simp only [ofFront, List.take_append_of_le_length hlength]

theorem ofFront_weekdayName {day : Nat} (hday : day < 7) :
    4 ≤ (capitalized (weekdayNames.getD day [])).length ∧
      ofFront (capitalized (weekdayNames.getD day [])) = weekday := by
  interval_cases day <;> exact ⟨by decide, rfl⟩

private theorem ofFront_monthName {month : Nat} (hmonth : month < 12) :
    4 ≤ (capitalized ((monthNames.getD month []).take 3) ++ [' ']).length ∧
      ofFront (capitalized ((monthNames.getD month []).take 3) ++ [' ']) = monthDay := by
  interval_cases month <;> exact ⟨by decide, rfl⟩

/-- Whatever follows them, the words for a day tell their form by their first letters. -/
theorem ofFront_words (form : DayForm) (date : Date) (rest : Text) :
    ofFront (form.words date ++ rest) = form := by
  cases form with
  | today =>
      change ofFront ("Today".toList ++ rest) = today
      exact ofFront_append (by decide) rest
  | tomorrow =>
      change ofFront ("Tomorrow".toList ++ rest) = tomorrow
      exact ofFront_append (by decide) rest
  | weekday =>
      obtain ⟨hlength, hform⟩ := ofFront_weekdayName date.weekday_lt
      exact (ofFront_append hlength rest).trans hform
  | monthDay =>
      have hrange := date.inCalendar
      have hmonth : date.month - 1 < 12 := by omega
      obtain ⟨hlength, hform⟩ := ofFront_monthName hmonth
      have hsplit : ∀ month day : Text,
          month ++ ' ' :: day ++ rest = month ++ [' '] ++ (day ++ rest) := by
        simp
      exact (congrArg ofFront (hsplit _ _)).trans ((ofFront_append hlength _).trans hform)

/-- Words in a form are those of one date among the dates of 365 days that the form is for. -/
theorem words_inj {now a b : Date} {form : DayForm}
    (ha : form.IsFor (a.dayNumber - now.dayNumber))
    (hb : form.IsFor (b.dayNumber - now.dayNumber))
    (hnear : a.dayNumber - b.dayNumber ≤ 364 ∧ b.dayNumber - a.dayNumber ≤ 364)
    (h : form.words a = form.words b) : a = b := by
  cases form with
  | today =>
      dsimp only [IsFor] at ha hb
      exact Date.eq_of_dayNumber_eq (by omega)
  | tomorrow =>
      dsimp only [IsFor] at ha hb
      exact Date.eq_of_dayNumber_eq (by omega)
  | weekday =>
      have hsame := capitalized_weekday_inj a.weekday_lt b.weekday_lt h
      unfold Date.weekday weekdayOf at hsame
      dsimp only [IsFor] at ha hb
      exact Date.eq_of_dayNumber_eq (by omega)
  | monthDay =>
      obtain ⟨hmonth, hday⟩ := eq_of_last_mark (notMem_padded rfl 2 a.day)
        (notMem_padded rfl 2 b.day) h
      have hrange := a.inCalendar
      have hrange' := b.inCalendar
      have hsame := capitalized_month_inj (by omega) (by omega) hmonth
      exact date_eq_of_month_day hnear (by omega) (padded_inj hday)

end DayForm

/-- The words for a day tell the date among those of 365 days. -/
theorem dayText_inj {now a b : Date}
    (hnear : a.dayNumber - b.dayNumber ≤ 364 ∧ b.dayNumber - a.dayNumber ≤ 364)
    (h : dayText now a = dayText now b) : a = b := by
  rw [DayForm.dayText_eq, DayForm.dayText_eq] at h
  have hform := congrArg (fun words => DayForm.ofFront (words ++ [])) h
  simp only [DayForm.ofFront_words] at hform
  rw [hform] at h
  exact DayForm.words_inj (hform ▸ DayForm.isFor_ofAhead _) (DayForm.isFor_ofAhead _) hnear h

/-- The words for a day and those for a time of day are told by the two together. -/
theorem day_and_time_of_words {day day' : Text} {time time' : TimeOfDay}
    (h : day ++ " at ".toList ++ clockText time = day' ++ " at ".toList ++ clockText time') :
    day = day' ∧ clockText time = clockText time' := by
  -- the words for a day can have every letter of the separator, those for a time have no small one
  have hlast : ∀ time, 't' ∉ ' ' :: clockText time := by
    intro time hmem
    rcases List.mem_cons.mp hmem with hblank | hmem
    · exact absurd hblank (by decide)
    · exact notMem_clockText rfl (by decide) (by decide) time hmem
  have hsplit : ∀ (day : Text) time, day ++ " at ".toList ++ clockText time =
      (day ++ " a".toList) ++ 't' :: (' ' :: clockText time) := by
    intro day time
    simp
  rw [hsplit, hsplit] at h
  obtain ⟨hday, htime⟩ := eq_of_last_mark (hlast time) (hlast time') h
  exact ⟨List.append_cancel_right hday, (List.cons.inj htime).2⟩

/-- The words for a due second are those for its local day and those for its time of day. -/
theorem wording_of_toLocal {clock : WallClock} {anchor : Anchor} {now shown : LocalTime}
    (hnow : clock.resolve anchor = .ok now) {due : Int} (hdue : due ≠ 0)
    (hshown : clock.zone.toLocal (.ofSeconds due) = .ok shown) :
    wording clock anchor (instant? due) =
      .ok (dayText now.date shown.date ++ " at ".toList ++ clockText shown.time) := by
  rw [instant?, if_neg hdue]
  unfold wording
  dsimp only
  rw [hshown, hnow]
  rfl

/-- Words leave out only the seconds and the year. Two due seconds whose local dates lie in one span
of 365 days have words, and the words are the same exactly if the seconds have the same local date,
hour and minute. -/
theorem wording_eq_iff {clock : WallClock} {anchor : Anchor} {now : LocalTime}
    (hnow : clock.resolve anchor = .ok now) {due due' : Int} (hdue : due ≠ 0) (hdue' : due' ≠ 0)
    {shown shown' : LocalTime} (hshown : clock.zone.toLocal (.ofSeconds due) = .ok shown)
    (hshown' : clock.zone.toLocal (.ofSeconds due') = .ok shown')
    (hspan : shown.date.dayNumber - shown'.date.dayNumber ≤ 364 ∧
      shown'.date.dayNumber - shown.date.dayNumber ≤ 364) :
    ∃ words words', wording clock anchor (instant? due) = .ok words ∧
      wording clock anchor (instant? due') = .ok words' ∧
      (words = words' ↔ shown.date = shown'.date ∧ shown.time.hour = shown'.time.hour ∧
        shown.time.minute = shown'.time.minute) := by
  refine ⟨_, _, wording_of_toLocal hnow hdue hshown, wording_of_toLocal hnow hdue' hshown', ?_⟩
  rw [← clockText_eq_iff]
  constructor
  · intro h
    obtain ⟨hday, htime⟩ := day_and_time_of_words h
    exact ⟨dayText_inj hspan hday, htime⟩
  · rintro ⟨hdate, htime⟩
    rw [hdate, htime]

/-- The second of March of one year and the leap day of the next are as far apart as a span allows,
and have different words. -/
theorem wording_ne_over_leap_year :
    let clock : WallClock := ⟨.eastAmerica, .ofInt 0⟩
    let noon : LocalTime := .on ⟨2027, 3, 5, by decide⟩ ⟨12, 0, 0, by decide⟩
    wording clock (.localTime noon) (instant? 1803996000) ≠
      wording clock (.localTime noon) (instant? 1835445600) := by
  intro clock noon
  have hnow : clock.resolve (.localTime noon) = .ok noon := rfl
  have hmarch : clock.zone.toLocal (.ofSeconds 1803996000) =
      .ok (.on ⟨2027, 3, 2, by decide⟩ .morning) := by decide +kernel
  have hleap : clock.zone.toLocal (.ofSeconds 1835445600) =
      .ok (.on ⟨2028, 2, 29, by decide⟩ .morning) := by decide +kernel
  obtain ⟨words, words', hwords, hwords', hiff⟩ :=
    wording_eq_iff hnow (by decide) (by decide) hmarch hleap (by decide +kernel)
  have hdate : Date.mk 2027 3 2 (by decide) ≠ Date.mk 2028 2 29 (by decide) := by decide
  rw [hwords, hwords']
  intro hsame
  exact hdate (hiff.mp (Except.ok.inj hsame)).1

end Agenda.DueDate
