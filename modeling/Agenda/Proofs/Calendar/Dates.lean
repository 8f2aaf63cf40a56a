import Agenda.Calendar.TimeOfDay
import Agenda.Proofs.Calendar.Days
import Mathlib

/-!
The dates of the calendar are the day numbers of the years 1 to 9999. Counting days on from a date
stays in the calendar as long as the day number does.
-/

namespace Agenda.Calendar

/-- The day numbers of the calendar. -/
def InCalendar (n : Int) : Prop := yearStart 1 ≤ n ∧ n < yearStart 10000

theorem inCalendar_iff (n : Int) : InCalendar n ↔ -719162 ≤ n ∧ n < 2932897 := Iff.rfl

/-- A day number is the first of its weekday after another one. -/
structure IsNext (weekday : Nat) (today n : Int) : Prop where
  lt : today < n
  weekdayOf_eq : weekdayOf n = weekday
  le_of_lt : ∀ m, today < m → weekdayOf m = weekday → n ≤ m

theorem IsNext.unique {weekday : Nat} {today m n : Int} (hm : IsNext weekday today m)
    (hn : IsNext weekday today n) : m = n :=
  le_antisymm (hm.le_of_lt n hn.lt hn.weekdayOf_eq) (hn.le_of_lt m hm.lt hm.weekdayOf_eq)

/-- From a later day the next day of a weekday is no earlier one. -/
theorem IsNext.mono {weekday : Nat} {today later m n : Int} (hm : IsNext weekday today m)
    (hn : IsNext weekday later n) (h : today ≤ later) : m ≤ n :=
  hm.le_of_lt n (h.trans_lt hn.lt) hn.weekdayOf_eq

/-- The seconds since midnight tell the time of day. -/
theorem TimeOfDay.eq_of_seconds_eq {a b : TimeOfDay} (h : a.seconds = b.seconds) : a = b := by
  obtain ⟨hour, minute, second, hinDay⟩ := a
  obtain ⟨hour', minute', second', hinDay'⟩ := b
  unfold seconds at h
  dsimp only at h
  simp only [TimeOfDay.mk.injEq]
  omega

namespace Date

/-- The date as a civil day. -/
def civil (date : Date) : Civil := ⟨date.year, date.month, date.day⟩

theorem dayNumber_civil (date : Date) : date.civil.dayNumber = date.dayNumber := rfl

theorem isDay_civil (date : Date) : date.civil.IsDay :=
  ⟨date.inCalendar.2.2.1, date.inCalendar.2.2.2.1, date.inCalendar.2.2.2.2.1,
    date.inCalendar.2.2.2.2.2⟩

theorem inYear (date : Date) :
    yearStart date.year ≤ date.dayNumber ∧ date.dayNumber < yearStart (date.year + 1) :=
  date.isDay_civil.inYear

theorem year_mono {a b : Date} (h : a.dayNumber ≤ b.dayNumber) : a.year ≤ b.year := by
  have hyear : (a.year : Int) ≤ b.year := le_of_yearStart_le b.inYear.2 (a.inYear.1.trans h)
  omega

/-- A year of days leads no further than into the next year. -/
theorem year_le_succ {today date : Date} (h : date.dayNumber ≤ today.dayNumber + 365) :
    date.year ≤ today.year + 1 := by
  have hin := today.inYear
  have hyear : (date.year : Int) < today.year + 1 + 1 := by
    apply lt_of_lt_yearStart date.inYear.1
    rw [yearStart_succ]
    unfold yearLength
    split <;> omega
  omega

theorem inCalendar_dayNumber (date : Date) : InCalendar date.dayNumber := by
  obtain ⟨hfirst, hlast, _⟩ := date.inCalendar
  have hin := date.inYear
  have hbegin := yearStart_mono (a := 1) (b := date.year) (by omega)
  have hend := yearStart_mono (a := date.year + 1) (b := 10000) (by omega)
  exact ⟨by omega, by omega⟩

/-- From its second year on, a whole year of the calendar has gone by. -/
theorem le_dayNumber {date : Date} (hyear : 2 ≤ date.year) : -718797 ≤ date.dayNumber := by
  have hsecond : yearStart 2 = -718797 := rfl
  rw [← hsecond]
  exact (yearStart_mono (Int.ofNat_le.mpr hyear)).trans date.inYear.1

/-- Dates from the second to the last but one year have a whole year of the calendar on both
sides. -/
theorem inCalendar_add {date : Date} (hyear : 2 ≤ date.year ∧ date.year ≤ 9998) (days : Int)
    (hdays : -365 ≤ days ∧ days ≤ 365) : InCalendar (date.dayNumber + days) := by
  have hin := date.inYear
  have hbegin := le_dayNumber hyear.1
  have hend := yearStart_mono (a := date.year + 1) (b := 9999) (by omega)
  have hlast : yearStart 9999 = 2932532 := rfl
  rw [inCalendar_iff]
  omega

theorem ofNumbers?_self (date : Date) :
    ofNumbers? date.year date.month date.day = some date := by
  rw [ofNumbers?, dif_pos date.inCalendar]

/-- A date is found again by its number. -/
theorem ofDayNumber?_dayNumber (date : Date) : ofDayNumber? date.dayNumber = some date := by
  have hcivil := ofDayNumber_dayNumber date.isDay_civil
  rw [dayNumber_civil] at hcivil
  unfold ofDayNumber?
  rw [hcivil]
  dsimp only [civil]
  rw [if_pos (by have := date.inCalendar.1; omega), Int.toNat_natCast]
  exact ofNumbers?_self date

theorem eq_of_dayNumber_eq {a b : Date} (h : a.dayNumber = b.dayNumber) : a = b := by
  have hfound := ofDayNumber?_dayNumber a
  rw [h, ofDayNumber?_dayNumber] at hfound
  exact (Option.some.inj hfound).symm

/-- The date of a day number has this number. -/
theorem dayNumber_of_ofDayNumber? {n : Int} {date : Date} (h : ofDayNumber? n = some date) :
    date.dayNumber = n := by
  have hself := dayNumber_ofDayNumber n
  unfold ofDayNumber? ofNumbers? at h
  dsimp only at h
  split_ifs at h with hyear hfields
  cases h
  rw [Civil.dayNumber] at hself
  rw [dayNumber]
  dsimp only
  rw [Int.toNat_of_nonneg (by omega)]
  exact hself

/-- Every day number of the calendar is that of a date. -/
theorem exists_ofDayNumber? {n : Int} (h : InCalendar n) :
    ∃ date, ofDayNumber? n = some date ∧ date.dayNumber = n := by
  obtain ⟨hmonth, hmonth', hday, hday'⟩ := isDay_ofDayNumber n
  have hin := (year_ofDayNumber_iff n _).mp rfl
  have hfirst : 1 ≤ (Civil.ofDayNumber n).year := le_of_yearStart_le hin.2 h.1
  have hlast : (Civil.ofDayNumber n).year < 10000 := lt_of_lt_yearStart hin.1 h.2
  have hback : (((Civil.ofDayNumber n).year.toNat : Nat) : Int) = (Civil.ofDayNumber n).year :=
    Int.toNat_of_nonneg (by omega)
  have hfound : ∃ date, ofDayNumber? n = some date := by
    unfold ofDayNumber? ofNumbers?
    dsimp only
    rw [if_pos hfirst, dif_pos ⟨by omega, by omega, hmonth, hmonth', hday, hback.symm ▸ hday'⟩]
    exact ⟨_, rfl⟩
  obtain ⟨date, hdate⟩ := hfound
  exact ⟨date, hdate, dayNumber_of_ofDayNumber? hdate⟩

/-- A number of days that is not too large leads to the date with the sum as its number, if there
is one. -/
theorem exists_addDays (date : Date) (days : Int) (hdays : -999999999 ≤ days ∧ days ≤ 999999999)
    (h : InCalendar (date.dayNumber + days)) :
    ∃ later, date.addDays days = .ok later ∧ later.dayNumber = date.dayNumber + days := by
  obtain ⟨later, hlater, hnumber⟩ := exists_ofDayNumber? h
  have hfits : fitsField days = true := by
    simp only [fitsField, Bool.and_eq_true, decide_eq_true_eq]
    omega
  have hcheck : checkDays days = .ok () := by
    rw [checkDays, if_neg (by simp [hfits]), if_neg (by omega)]
  refine ⟨later, ?_, hnumber⟩
  unfold addDays
  simp only [hcheck, hlater, bind, Except.bind]
  rfl

theorem dayNumber_of_addDays {date later : Date} {days : Int} (h : date.addDays days = .ok later) :
    later.dayNumber = date.dayNumber + days := by
  unfold addDays at h
  simp only [bind, Except.bind] at h
  split at h
  · cases h
  · split at h
    · next found hfound =>
        obtain rfl := Except.ok.inj h
        exact dayNumber_of_ofDayNumber? hfound
    · cases h

/-- The calendar goes on for two days before the date and after it. -/
structure IsInner (date : Date) : Prop where
  before : InCalendar (date.dayNumber - 2)
  after : InCalendar (date.dayNumber + 2)

theorem isInner_of_near {today later : Date} (hyear : 2 ≤ today.year ∧ today.year ≤ 9998)
    (days : Int) (hdays : -300 ≤ days ∧ days ≤ 300)
    (h : later.dayNumber = today.dayNumber + days) : later.IsInner := by
  constructor
  · rw [h, Int.add_sub_assoc]
    exact inCalendar_add hyear _ (by omega)
  · rw [h, Int.add_assoc]
    exact inCalendar_add hyear _ (by omega)

theorem exists_addDays_near {today : Date} (hyear : 2 ≤ today.year ∧ today.year ≤ 9998)
    (days : Int) (hdays : -300 ≤ days ∧ days ≤ 300) :
    ∃ later, today.addDays days = .ok later ∧ later.dayNumber = today.dayNumber + days ∧
      later.IsInner := by
  obtain ⟨later, hadd, hnumber⟩ := exists_addDays today days (by omega)
    (inCalendar_add hyear days (by omega))
  exact ⟨later, hadd, hnumber, isInner_of_near hyear days hdays hnumber⟩

theorem weekday_lt (date : Date) : date.weekday < 7 := by
  unfold weekday weekdayOf
  omega

theorem daysUntil_bounds (date : Date) (weekday : Int) :
    1 ≤ date.daysUntil weekday ∧ date.daysUntil weekday ≤ 7 := by
  unfold daysUntil
  omega

/-- The days up to a weekday lead to the first such day after the date. -/
theorem isNext_daysUntil (date : Date) (weekday : Nat) (h : weekday < 7) :
    IsNext weekday date.dayNumber (date.dayNumber + date.daysUntil weekday) := by
  unfold daysUntil Date.weekday weekdayOf
  refine ⟨by omega, ?_, ?_⟩
  · unfold weekdayOf
    omega
  · intro m hm hweekday
    unfold weekdayOf at hweekday
    omega

end Date

end Agenda.Calendar
