import Agenda.Phrase.Draft
import Agenda.Proofs.Clock.LocalTime
import Mathlib

/-!
Drafts whose fields lie in their ranges have a second in every zone, as long as the calendar goes on
for the rest of the day. The day of a draft may be any of 31: one past the end of its month runs on
into the next, and December has 31 days.
-/

namespace Agenda.Phrase

open Calendar Clock

namespace Draft

/-- The fields lie in their ranges, the day in that of the longest months. -/
structure InRange (d : Draft) : Prop where
  year : 2 ≤ d.year ∧ d.year ≤ 9999
  month : 1 ≤ d.month ∧ d.month ≤ 12
  day : 1 ≤ d.day ∧ d.day ≤ 31
  hour : 0 ≤ d.hour ∧ d.hour ≤ 23
  minute : 0 ≤ d.minute ∧ d.minute ≤ 59
  second : 0 ≤ d.second ∧ d.second ≤ 59

theorem inRange_ofLocal {now : LocalTime} (hyear : 2 ≤ now.date.year) : (ofLocal now).InRange := by
  obtain ⟨_, hlast, hmonth, hmonth', hday, hday'⟩ := now.date.inCalendar
  have hlength := daysInMonth_le now.date.year hmonth hmonth'
  obtain ⟨hhour, hminute, hsecond⟩ := now.time.inDay
  constructor <;> dsimp only [ofLocal] <;> omega

theorem InRange.onDate {d : Draft} (h : d.InRange) {date : Date} (hyear : 2 ≤ date.year) :
    (d.onDate date).InRange := by
  obtain ⟨_, hlast, hmonth, hmonth', hday, hday'⟩ := date.inCalendar
  have hlength := daysInMonth_le date.year hmonth hmonth'
  constructor
  case hour => exact h.hour
  case minute => exact h.minute
  case second => exact h.second
  all_goals
    dsimp only [Draft.onDate]
    omega

theorem InRange.atTime {d : Draft} (h : d.InRange) (hour minute : Nat)
    (htime : hour ≤ 23 ∧ minute ≤ 59) : (d.atTime hour minute 0).InRange := by
  constructor
  case year => exact h.year
  case month => exact h.month
  case day => exact h.day
  all_goals
    dsimp only [Draft.atTime]
    omega

theorem InRange.inMorning {d : Draft} (h : d.InRange) : d.inMorning.InRange :=
  h.atTime 9 0 (by decide)

/-- The seconds since midnight of the time fields. -/
def seconds (d : Draft) : Int := 3600 * d.hour + 60 * d.minute + d.second

private theorem checkField_ok {n : Int} (h : 0 ≤ n ∧ n ≤ 9999) : checkField n = .ok () := by
  rw [checkField, if_neg (by omega), if_neg (by omega), if_neg (by omega)]

private theorem exists_first {year month : Int} (hyear : 2 ≤ year ∧ year ≤ 9999)
    (hmonth : 1 ≤ month ∧ month ≤ 12) :
    ∃ date, Date.ofFields year month 1 = .ok date ∧
      date.dayNumber = dayNumberOf year month.toNat 1 := by
  have hfields : 1 ≤ year.toNat ∧ year.toNat ≤ 9999 ∧ 1 ≤ month.toNat ∧ month.toNat ≤ 12 ∧
      1 ≤ 1 ∧ 1 ≤ daysInMonth year.toNat month.toNat :=
    ⟨by omega, by omega, by omega, by omega, le_rfl,
      le_trans (by decide) (le_daysInMonth _ (by omega) (by omega))⟩
  refine ⟨⟨year.toNat, month.toNat, 1, hfields⟩, ?_, ?_⟩
  · have hcheck : checkYear year = .ok () := by
      rw [checkYear, maxYear, if_pos (by omega)]
    have hnumbers : Date.ofNumbers? year.toNat month.toNat 1 =
        some ⟨year.toNat, month.toNat, 1, hfields⟩ := dif_pos hfields
    unfold Date.ofFields
    simp only [hcheck, bind, Except.bind]
    rw [if_neg (by omega)]
    simp only [Int.toNat_one, hnumbers]
    rfl
  · rw [Date.dayNumber]
    dsimp only
    rw [Int.toNat_of_nonneg (by omega)]

private theorem exists_time {d : Draft} (h : d.InRange) :
    ∃ time, TimeOfDay.ofFields d.hour d.minute d.second = .ok time ∧
      (time.seconds : Int) = d.seconds := by
  obtain ⟨_, _, _, hhour, hminute, hsecond⟩ := h
  have hinDay : d.hour.toNat < 24 ∧ d.minute.toNat < 60 ∧ d.second.toNat < 60 := by omega
  refine ⟨⟨d.hour.toNat, d.minute.toNat, d.second.toNat, hinDay⟩, ?_, ?_⟩
  · rw [TimeOfDay.ofFields, if_neg (by omega), if_neg (by omega), dif_pos hinDay, if_neg (by omega)]
  · rw [TimeOfDay.seconds, Draft.seconds]
    dsimp only
    omega

/-- A day of a month, counted on from the first of the month, lies in the year of the month. -/
theorem exists_dayOfMonth {year month day : Int} (hyear : 2 ≤ year ∧ year ≤ 9999)
    (hmonth : 1 ≤ month ∧ month ≤ 12) (hday : 1 ≤ day ∧ day ≤ 31) :
    ∃ first date, Date.ofFields year month 1 = .ok first ∧ first.addDays (day - 1) = .ok date ∧
      date.dayNumber = dayNumberOf year month.toNat 1 + (day - 1) ∧
      yearStart year ≤ date.dayNumber ∧ date.dayNumber < yearStart (year + 1) := by
  obtain ⟨first, hfirst, hnumber⟩ := exists_first hyear hmonth
  have hin : yearStart year ≤ first.dayNumber + (day - 1) ∧
      first.dayNumber + (day - 1) < yearStart (year + 1) := by
    have hmonthEnd := daysBeforeMonth_le year (by omega : 1 ≤ month.toNat) (by omega)
    rw [hnumber, dayNumberOf_eq, yearStart_succ]
    omega
  have hcalendar : InCalendar (first.dayNumber + (day - 1)) := by
    have hbegin := yearStart_mono (a := 1) (b := year) (by omega)
    have hend := yearStart_mono (a := year + 1) (b := 10000) (by omega)
    exact ⟨by omega, by omega⟩
  obtain ⟨date, hdate, hdateNumber⟩ := Date.exists_addDays first (day - 1) (by omega) hcalendar
  exact ⟨first, date, hfirst, hdate, by omega, by omega, by omega⟩

/-- The local time of a draft in range: its date is counted on from the first of the month, and it
lies in the year of the draft. -/
theorem exists_toLocal {d : Draft} (h : d.InRange) :
    ∃ date time, d.toLocal = .ok (.on date time) ∧ (time.seconds : Int) = d.seconds ∧
      date.dayNumber = dayNumberOf d.year d.month.toNat 1 + (d.day - 1) ∧
      yearStart d.year ≤ date.dayNumber ∧ date.dayNumber < yearStart (d.year + 1) := by
  obtain ⟨first, date, hfirst, hdate, hnumber⟩ := exists_dayOfMonth h.year h.month h.day
  obtain ⟨time, htime, hseconds⟩ := exists_time h
  obtain ⟨hyear, hmonth, hday, hhour, hminute, hsecond⟩ := h
  refine ⟨date, time, ?_, hseconds, hnumber⟩
  unfold toLocal
  simp only [checkField_ok (n := d.year) (by omega), checkField_ok (n := d.month) (by omega),
    checkField_ok (n := d.hour) (by omega), checkField_ok (n := d.minute) (by omega),
    checkField_ok (n := d.second) (by omega), hfirst, htime, hdate, bind, Except.bind]
  rfl

/-- A morning is a morning of whatever date, if there is one. -/
theorem toLocal_inMorning {d : Draft} {t : LocalTime} (h : d.inMorning.toLocal = .ok t) :
    ∃ date, t = .on date .morning := by
  obtain ⟨_, _, h⟩ := ok_of_bind h
  obtain ⟨_, _, h⟩ := ok_of_bind h
  obtain ⟨_, _, h⟩ := ok_of_bind h
  obtain ⟨_, _, h⟩ := ok_of_bind h
  obtain ⟨_, _, h⟩ := ok_of_bind h
  obtain ⟨_, _, h⟩ := ok_of_bind h
  obtain ⟨time, htime, h⟩ := ok_of_bind h
  obtain ⟨date, _, h⟩ := ok_of_bind h
  have hmorning : time = .morning := (Except.ok.inj htime).symm
  exact ⟨date, by rw [← hmorning, Except.ok.inj h]⟩

/-- A time of today is on the date of today. -/
theorem exists_toLocal_atTime {now : LocalTime} (hyear : 2 ≤ now.date.year) {hour minute : Nat}
    (htime : hour ≤ 23 ∧ minute ≤ 59) :
    ∃ time, ((ofLocal now).atTime hour minute 0).toLocal = .ok (.on now.date time) ∧
      (time.seconds : Int) = 3600 * hour + 60 * minute := by
  obtain ⟨date, time, hlocal, hseconds, hnumber, _⟩ :=
    exists_toLocal ((inRange_ofLocal hyear).atTime hour minute htime)
  have hdate : date = now.date := by
    apply Date.eq_of_dayNumber_eq
    rw [hnumber, Date.dayNumber, dayNumberOf_eq, dayNumberOf_eq]
    simp only [ofLocal, atTime, Int.toNat_natCast]
    omega
  subst hdate
  refine ⟨time, hlocal, ?_⟩
  rw [hseconds]
  simp only [seconds, atTime]
  omega

end Draft

end Agenda.Phrase
