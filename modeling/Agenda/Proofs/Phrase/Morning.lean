import Agenda.Phrase.Resolve
import Agenda.Proofs.Phrase.Draft
import Mathlib

/-!
The mornings that phrases name. A day counted from now, a weekday and a day of a month all come to
nine in the morning of some date, and the date is told by its day number.
-/

namespace Agenda.Phrase

open Calendar Clock

/-- The day number of a day of a month in a year. A day past the end of the month runs on into the
next. -/
def dayInYear (year : Int) (month day : Nat) : Int := dayNumberOf year month 1 + (day - 1)

/-- From one year to the next a day of a month comes at least 365 days later. -/
theorem dayInYear_succ (year : Int) {month : Nat} (hmonth : 1 ≤ month ∧ month ≤ 12) (day : Nat) :
    dayInYear year month day + 365 ≤ dayInYear (year + 1) month day := by
  have hlater : daysBeforeMonth year month + 365 ≤
      yearLength year + daysBeforeMonth (year + 1) month := by
    have hleap : ¬ (isLeap year = true ∧ isLeap (year + 1) = true) := by
      rw [isLeap_iff, isLeap_iff]
      omega
    obtain ⟨hfirst, hlast⟩ := hmonth
    unfold daysBeforeMonth monthLengths yearLength
    cases hthis : isLeap year <;> cases hnext : isLeap (year + 1)
    case true.true => exact absurd ⟨hthis, hnext⟩ hleap
    all_goals interval_cases month <;> simp
  unfold dayInYear
  rw [dayNumberOf_eq, dayNumberOf_eq, yearStart_succ]
  omega

theorem dayInYear_mono {year later : Int} (h : year ≤ later) {month : Nat}
    (hmonth : 1 ≤ month ∧ month ≤ 12) (day : Nat) :
    dayInYear year month day ≤ dayInYear later month day := by
  induction later, h using Int.leInduction with
  | base => exact le_rfl
  | succ later _ ih =>
      have hnext := dayInYear_succ later hmonth day
      omega

/-- A date is the day of its month in its year. -/
theorem dayInYear_date (date : Date) :
    dayInYear date.year date.month date.day = date.dayNumber := by
  unfold dayInYear Date.dayNumber
  rw [dayNumberOf_eq, dayNumberOf_eq]
  omega

/-- The same month and day of two years lie at least 365 days apart. -/
theorem date_eq_of_month_day {a b : Date}
    (hnear : a.dayNumber - b.dayNumber ≤ 364 ∧ b.dayNumber - a.dayNumber ≤ 364)
    (hmonth : a.month = b.month) (hday : a.day = b.day) : a = b := by
  have hapart : ∀ {a b : Date}, a.month = b.month → a.day = b.day → a.year < b.year →
      a.dayNumber + 365 ≤ b.dayNumber := by
    intro a b hmonth hday hyear
    obtain ⟨_, _, hfirst, hlast, _⟩ := b.inCalendar
    have hnext := dayInYear_succ a.year ⟨hfirst, hlast⟩ b.day
    have hlater : dayInYear (a.year + 1) b.month b.day ≤ dayInYear b.year b.month b.day :=
      dayInYear_mono (by omega) ⟨hfirst, hlast⟩ b.day
    rw [← dayInYear_date a, ← dayInYear_date b, hmonth, hday]
    omega
  rcases lt_trichotomy a.year b.year with hbefore | hsame | hafter
  · have hfar := hapart hmonth hday hbefore
    omega
  · apply Date.eq_of_dayNumber_eq
    rw [Date.dayNumber, Date.dayNumber, hsame, hmonth, hday]
  · have hfar := hapart hmonth.symm hday.symm hafter
    omega

/-- The morning of a draft is that of the date that its fields come to. -/
theorem Draft.exists_morning {d : Draft} (h : d.InRange) :
    ∃ date, date.dayNumber = dayNumberOf d.year d.month.toNat 1 + (d.day - 1) ∧
      yearStart d.year ≤ date.dayNumber ∧
      ∀ z, d.inMorning.toTimestamp z = z.toTimestamp (.on date .morning) := by
  obtain ⟨date, time, hlocal, _, hnumber, hstart, _⟩ := Draft.exists_toLocal h.inMorning
  obtain ⟨date', hmorning⟩ := Draft.toLocal_inMorning hlocal
  have hsame : LocalTime.on date time = .on date .morning := by
    rw [hmorning]
    have hdate : date = date' := congrArg LocalTime.date hmorning
    rw [hdate]
  refine ⟨date, hnumber, hstart, ?_⟩
  intro z
  rw [Draft.toTimestamp, hlocal, hsame]
  rfl

section

variable {now : LocalTime} (hyear : 2 ≤ now.date.year ∧ now.date.year ≤ 9998)
include hyear

/-- The morning some days ahead is that of the date as many days ahead. -/
theorem exists_date_of_morningAfter {days : Int} (hdays : 1 ≤ days ∧ days ≤ 7) :
    ∃ date : Date, date.dayNumber = now.date.dayNumber + days ∧ 2 ≤ date.year ∧
      ∀ z, morningAfter z now days = z.toTimestamp (.on date .morning) := by
  obtain ⟨date, hdate, hnumber, _⟩ := Date.exists_addDays_near hyear days (by omega)
  have hlater : 2 ≤ date.year := hyear.1.trans (Date.year_mono (by omega))
  obtain ⟨date', hnumber', _, hmorning⟩ :=
    Draft.exists_morning ((Draft.inRange_ofLocal hyear.1).onDate hlater)
  have hsame : date' = date := by
    apply Date.eq_of_dayNumber_eq
    rw [hnumber', ← dayInYear_date date]
    rfl
  refine ⟨date, hnumber, hlater, ?_⟩
  intro z
  unfold morningAfter
  rw [hdate]
  change ((Draft.ofLocal now).onDate date).inMorning.toTimestamp z = _
  rw [hmorning, hsame]

/-- The two mornings that a day of a month is chosen from: this year's and next year's. -/
theorem exists_dates_of_nextMonthDay {month day : Nat} (hmonth : 1 ≤ month ∧ month ≤ 12)
    (hday : 1 ≤ day ∧ day ≤ 31) :
    ∃ this next : Date, this.dayNumber = dayInYear now.date.year month day ∧
      next.dayNumber = dayInYear (now.date.year + 1) month day ∧ 2 ≤ this.year ∧ 2 ≤ next.year ∧
      ∀ z, nextMonthDay z now month day = (do
        let second ← z.toTimestamp (.on this .morning)
        if (second : Rat) < (← z.toCount now) then z.toTimestamp (.on next .morning)
        else return second) := by
  have hnow := Draft.inRange_ofLocal hyear.1
  have hin : ∀ year : Int, 2 ≤ year ∧ year ≤ 9999 →
      ({ Draft.ofLocal now with year := year, month := month, day := day } : Draft).InRange := by
    intro year hyear'
    refine ⟨hyear', ?_, ?_, hnow.hour, hnow.minute, hnow.second⟩ <;> dsimp only <;> omega
  have hsecond : yearStart 2 = -718797 := rfl
  have hlate : ∀ date : Date, yearStart 2 ≤ date.dayNumber → 2 ≤ date.year := by
    intro date hstart
    have hafter : (2 : Int) ≤ date.year := le_of_yearStart_le date.inYear.2 hstart
    omega
  obtain ⟨this, hthis, hthisStart, hthisMorning⟩ :=
    Draft.exists_morning (hin now.date.year (by omega))
  obtain ⟨next, hnext, hnextStart, hnextMorning⟩ :=
    Draft.exists_morning (hin (now.date.year + 1) (by omega))
  refine ⟨this, next, hthis, hnext, hlate this ?_, hlate next ?_, ?_⟩
  · exact (yearStart_mono (by dsimp only; omega)).trans hthisStart
  · exact (yearStart_mono (by dsimp only; omega)).trans hnextStart
  · intro z
    unfold nextMonthDay
    rw [← hthisMorning z, ← hnextMorning z]
    rfl

/-- The morning of a day of the coming week is named by the days up to it. -/
theorem morningAfter_eq (z : Zone) {date : Date}
    (hahead : 1 ≤ date.dayNumber - now.date.dayNumber ∧ date.dayNumber - now.date.dayNumber ≤ 7) :
    morningAfter z now (date.dayNumber - now.date.dayNumber) =
      z.toTimestamp (.on date .morning) := by
  obtain ⟨found, hnumber, _, hmorning⟩ := exists_date_of_morningAfter hyear hahead
  rw [hmorning, Date.eq_of_dayNumber_eq (a := found) (b := date) (by omega)]

/-- The morning of a day of the coming year is named by its month and day: it is this year's if the
day lies in this year, and else this year's has gone by. -/
theorem nextMonthDay_eq (hmicro : now.micro = 0) (z : Zone) {date : Date}
    (hahead : 1 ≤ date.dayNumber - now.date.dayNumber ∧
      date.dayNumber - now.date.dayNumber ≤ 364) :
    nextMonthDay z now date.month date.day = z.toTimestamp (.on date .morning) := by
  obtain ⟨_, _, hmonth, hmonth', hday, hday'⟩ := date.inCalendar
  have hlength := daysInMonth_le date.year hmonth hmonth'
  obtain ⟨this, next, hthis, hnext, hthisYear, _, heq⟩ :=
    exists_dates_of_nextMonthDay hyear ⟨hmonth, hmonth'⟩ ⟨hday, by omega⟩
  obtain ⟨second, hsecond, _⟩ := Zone.exists_morning z hthisYear
  obtain ⟨count, hcount, hcases, _⟩ :=
    Zone.secondOf_spec (z := z) (Zone.isInner_reading hyear now.again)
  have hmorning := Zone.secondOf_cases (Zone.secondOf_of_toTimestamp rfl hsecond)
  have hnine : (LocalTime.on this .morning).reading = 86400 * this.dayNumber + 32400 := rfl
  have hreading := now.reading_bounds
  have hname := dayInYear_date date
  have hlater := dayInYear_succ now.date.year ⟨hmonth, hmonth'⟩ date.day
  rw [heq, hsecond]
  simp only [bind, Except.bind, Zone.toCount_eq hmicro hcount, Int.cast_lt]
  rcases (Date.year_mono (a := now.date) (b := date) (by omega)).eq_or_lt with hsame | hnew
  · rw [← hsame] at hname
    have hdate : this = date := Date.eq_of_dayNumber_eq (by omega)
    subst hdate
    rw [if_neg (by omega), hsecond]
    rfl
  · have hsoon : date.year ≤ now.date.year + 1 := Date.year_le_succ (by omega)
    have hsucc : (date.year : Int) = now.date.year + 1 := by omega
    rw [hsucc] at hname
    have hdate : next = date := Date.eq_of_dayNumber_eq (by omega)
    rw [hdate, if_pos (by omega)]

end

end Agenda.Phrase
