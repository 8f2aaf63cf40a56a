import Agenda.Proofs.Clock.Anchor
import Agenda.Proofs.Phrase.Morning
import Agenda.Proofs.Phrase.Repeated
import Mathlib

/-!
Days of a month. Each year has a morning of a day of a month, where a day past the end of the month
runs on into the next, and the mornings follow one another from year to year. A phrase for the day
names the first of them that has not gone by.
-/

namespace Agenda.Phrase

open Calendar Clock

/-- The morning of a day of a month in a year. -/
def morningInYear (z : Zone) (year : Int) (month day : Nat) : Except Fault Int := do
  let first ← Date.ofFields year month 1
  let date ← first.addDays (day - 1)
  z.toTimestamp (.on date .morning)

section Mornings

variable {month day : Nat} (hmonth : 1 ≤ month ∧ month ≤ 12) (hday : 1 ≤ day ∧ day ≤ 31)
include hmonth hday

/-- A day of a month is a date in the year of the month. -/
theorem exists_date_of_morningInYear {year : Int} (hyear : 2 ≤ year ∧ year ≤ 9999) :
    ∃ date : Date, date.dayNumber = dayInYear year month day ∧
      yearStart year ≤ date.dayNumber ∧ date.dayNumber < yearStart (year + 1) ∧
      ∀ z, morningInYear z year month day = z.toTimestamp (.on date .morning) := by
  have hmonth' : 1 ≤ (month : Int) ∧ (month : Int) ≤ 12 := by omega
  have hday' : 1 ≤ (day : Int) ∧ (day : Int) ≤ 31 := by omega
  obtain ⟨first, date, hfirst, hdate, hnumber, hstart, hstop⟩ :=
    Draft.exists_dayOfMonth hyear hmonth' hday'
  refine ⟨date, hnumber, hstart, hstop, ?_⟩
  intro z
  unfold morningInYear
  simp only [hfirst, hdate, bind, Except.bind]

variable (z : Zone)

/-- The morning is the one second at which the clock shows nine on the day. -/
theorem exists_morningInYear {year : Int} (hyear : 2 ≤ year ∧ year ≤ 9999) :
    ∃ second, morningInYear z year month day = .ok second ∧
      z.ShowsOnce (86400 * dayInYear year month day + 32400) second ∧
      yearStart year ≤ dayInYear year month day ∧
      dayInYear year month day < yearStart (year + 1) := by
  obtain ⟨date, hnumber, hstart, hstop, hmorning⟩ := exists_date_of_morningInYear hmonth hday hyear
  have hlate : 2 ≤ date.year :=
    Int.ofNat_le.mp (le_of_yearStart_le date.inYear.2 ((yearStart_mono hyear.1).trans hstart))
  obtain ⟨second, hsecond, hshows⟩ := Zone.exists_morning z hlate
  rw [← hnumber]
  exact ⟨second, (hmorning z).trans hsecond, hshows, hstart, hstop⟩

/-- From year to year the mornings follow one another. -/
theorem morningInYear_mono {year later second second' : Int}
    (hyear : 2 ≤ year ∧ year ≤ later ∧ later ≤ 9999)
    (h : morningInYear z year month day = .ok second)
    (h' : morningInYear z later month day = .ok second') : second ≤ second' := by
  have hin : 2 ≤ year ∧ year ≤ 9999 := by omega
  have hin' : 2 ≤ later ∧ later ≤ 9999 := by omega
  obtain ⟨u, hu, hshows, _⟩ := exists_morningInYear hmonth hday z hin
  obtain ⟨u', hu', hshows', _⟩ := exists_morningInYear hmonth hday z hin'
  cases h.symm.trans hu
  cases h'.symm.trans hu'
  have hmono := dayInYear_mono hyear.2.1 hmonth day
  rw [hshows.le_iff, hshows'.wall_eq]
  omega

variable {now : LocalTime} {e : Int} (hmicro : now.micro = 0)
  (hcount : z.toCount now = .ok (e : Rat))
  (hyear : 2 ≤ now.date.year ∧ now.date.year ≤ 9998)

include hmicro hcount in
/-- The mornings of the years before this one have gone by, and those of the years after it are to
come. -/
theorem morningInYear_other_year {year second : Int} (hin : 2 ≤ year ∧ year ≤ 9999)
    (h : morningInYear z year month day = .ok second) :
    (year < now.date.year → second < e) ∧ (now.date.year < year → e < second) := by
  obtain ⟨u, hu, hshows, hstart, hstop⟩ := exists_morningInYear hmonth hday z hin
  cases h.symm.trans hu
  have htoday := now.date.inYear
  have hcases := Zone.secondOf_cases (Zone.secondOf_of_toCount hmicro hcount)
  have hreading := now.reading_bounds
  have hwall := hshows.wall_eq
  have hoffset := z.offset_cases second
  unfold Zone.wall at hwall
  constructor
  · intro hearlier
    have hmono := yearStart_mono (a := year + 1) (b := now.date.year) (by omega)
    omega
  · intro hlater
    have hmono := yearStart_mono (a := (now.date.year : Int) + 1) (b := year) (by omega)
    omega

include hcount hyear in
/-- The next morning of a day of a month is this year's, or that of the next year if this year's has
gone by. -/
theorem nextMonthDay_eq_ite {this next : Int}
    (hthis : morningInYear z now.date.year month day = .ok this)
    (hnext : morningInYear z (now.date.year + 1) month day = .ok next) :
    nextMonthDay z now month day = .ok (if this < e then next else this) := by
  obtain ⟨date, date', hnumber, hnumber', _, _, heq⟩ :=
    exists_dates_of_nextMonthDay hyear hmonth hday
  have hin : 2 ≤ (now.date.year : Int) ∧ (now.date.year : Int) ≤ 9999 := by omega
  have hin' : 2 ≤ (now.date.year : Int) + 1 ∧ (now.date.year : Int) + 1 ≤ 9999 := by omega
  obtain ⟨found, hfound, _, _, hmorning⟩ := exists_date_of_morningInYear hmonth hday hin
  obtain ⟨found', hfound', _, _, hmorning'⟩ := exists_date_of_morningInYear hmonth hday hin'
  obtain rfl := Date.eq_of_dayNumber_eq (hfound.trans hnumber.symm)
  obtain rfl := Date.eq_of_dayNumber_eq (hfound'.trans hnumber'.symm)
  rw [heq, ← hmorning z, ← hmorning' z, hthis, hnext]
  simp only [bind, Except.bind, hcount, Int.cast_lt]
  split <;> rfl

include hmicro hcount hyear in
/-- The next morning of a day of a month is the first that has not gone by. -/
theorem nextMonthDay_isNext :
    ∃ year second, (2 ≤ year ∧ year ≤ 9999) ∧ morningInYear z year month day = .ok second ∧
      nextMonthDay z now month day = .ok second ∧ e ≤ second ∧
      ∀ year', 2 ≤ year' ∧ year' ≤ 9999 → ∃ later, morningInYear z year' month day = .ok later ∧
        (e ≤ later → second ≤ later) := by
  have hinThis : 2 ≤ (now.date.year : Int) ∧ (now.date.year : Int) ≤ 9999 := by omega
  have hinNext : 2 ≤ (now.date.year : Int) + 1 ∧ (now.date.year : Int) + 1 ≤ 9999 := by omega
  obtain ⟨this, hthis, _⟩ := exists_morningInYear hmonth hday z hinThis
  obtain ⟨next, hnext, _⟩ := exists_morningInYear hmonth hday z hinNext
  have heq := nextMonthDay_eq_ite hmonth hday z hcount hyear hthis hnext
  by_cases hpast : this < e
  · have hahead := (morningInYear_other_year hmonth hday z hmicro hcount hinNext hnext).2
    rw [if_pos hpast] at heq
    refine ⟨_, next, hinNext, hnext, heq, by omega, ?_⟩
    intro year' hin
    obtain ⟨later, hlater, _⟩ := exists_morningInYear hmonth hday z hin
    refine ⟨later, hlater, ?_⟩
    intro hcomes
    -- up to this year the mornings have gone by
    have hyear' : now.date.year < year' := by
      by_contra hearlier
      have hmono := morningInYear_mono hmonth hday z (by omega) hlater hthis
      omega
    exact morningInYear_mono hmonth hday z (by omega) hnext hlater
  · rw [if_neg hpast] at heq
    refine ⟨_, this, hinThis, hthis, heq, by omega, ?_⟩
    intro year' hin
    obtain ⟨later, hlater, _⟩ := exists_morningInYear hmonth hday z hin
    refine ⟨later, hlater, ?_⟩
    intro hcomes
    have hgone := (morningInYear_other_year hmonth hday z hmicro hcount hin hlater).1
    exact morningInYear_mono hmonth hday z (by omega) hthis hlater

end Mornings

/-- A day of a month is its next coming. From any anchor that means a whole second, with a local date
in the years 2 to 9998, a text that starts with a month and a day means the first morning of that day
that has not gone by, among those of the years 2 to 9999. -/
theorem resolve_monthDay {clock : WallClock} {anchor : Anchor} {e : Int} {now : LocalTime}
    (hanchor : WallClock.Denotes clock e anchor) (hnow : clock.resolve anchor = .ok now)
    (hyear : 2 ≤ now.date.year ∧ now.date.year ≤ 9998) {text rest : Text} {month day : Nat}
    (hread : monthDay text = .accept (month, day) rest) :
    ∃ year second, (2 ≤ year ∧ year ≤ 9999) ∧
      morningInYear clock.zone year month day = .ok second ∧
      resolve clock anchor (some text) = .ok (some second) ∧ e ≤ second ∧
      ∀ year', 2 ≤ year' ∧ year' ≤ 9999 →
        ∃ later, morningInYear clock.zone year' month day = .ok later ∧
          (e ≤ later → second ≤ later) := by
  obtain ⟨hmonth, hday⟩ := monthDay_accept hread
  obtain ⟨t, hdate, hmicro, hcount, hsame⟩ := hanchor.exists_toCount hnow hyear
  rw [← hdate] at hyear
  obtain ⟨year, second, hin, hmorning, hnext, hahead, hfirst⟩ :=
    nextMonthDay_isNext hmonth hday clock.zone hmicro hcount hyear
  have habsolute : readAbsolute clock.zone t text = .ok (some second) := by
    unfold readAbsolute
    rw [hread]
    dsimp only
    rw [hnext]
    rfl
  have hlocal : readAbsolute clock.zone now text = .ok (some second) := by
    rcases hsame with rfl | ⟨rfl, hshown⟩
    · exact habsolute
    · rw [readAbsolute_firstPass hshown hyear, habsolute]
  refine ⟨year, second, hin, hmorning, ?_, hahead, hfirst⟩
  rw [resolve_eq_firstRule hnow, firstRule_eq_some_iff]
  exact ⟨readAbsolute, by simp [rules], hlocal⟩

/-- The second of March is the "Feb 30" of 2027. Past nine on it the next one is the first of March
of 2028, a leap year. -/
theorem resolve_monthDay_leap_year :
    let clock : WallClock := ⟨.eastAmerica, .ofInt 0⟩
    resolve clock (.counted (.ofInt 1804006800)) (some "Feb 30".toList) = .ok (some 1835532000) ∧
      morningInYear clock.zone 2027 2 30 = .ok 1803996000 ∧
      morningInYear clock.zone 2028 2 30 = .ok 1835532000 ∧
      ∀ year, 2 ≤ year ∧ year ≤ 9999 → ∃ later, morningInYear clock.zone year 2 30 = .ok later ∧
        (1804006800 ≤ later → 1835532000 ≤ later) := by
  intro clock
  have hnow : clock.resolve (.counted (.ofInt 1804006800)) =
      .ok (.on ⟨2027, 3, 2, by decide⟩ ⟨12, 0, 0, by decide⟩) := by decide +kernel
  have hread : monthDay "Feb 30".toList = .accept (2, 30) [] := rfl
  have hvalue : resolve clock (.counted (.ofInt 1804006800)) (some "Feb 30".toList) =
      .ok (some 1835532000) := by decide +kernel
  obtain ⟨_, second, _, _, hsecond, _, hfirst⟩ :=
    resolve_monthDay WallClock.denotes_counted hnow (by decide) hread
  cases hvalue.symm.trans hsecond
  exact ⟨hvalue, by decide +kernel, by decide +kernel, hfirst⟩

end Agenda.Phrase
