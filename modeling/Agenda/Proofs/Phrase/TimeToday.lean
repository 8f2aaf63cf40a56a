import Agenda.Proofs.Phrase.Beginning
import Agenda.Proofs.Phrase.Repeated
import Mathlib

/-!
The next coming of a time of day. A time that has gone by is moved on by 24 hours, and 24 hours after
a time of today this day is over. Only a day on which the clock is put back is an hour longer: in its
last hour the times of its first hour are moved on to a second that has gone by as well.
-/

namespace Agenda.Clock.Zone

open Calendar

variable {z : Zone}

/-- The clock shows a time of the date twice. -/
def RepeatsOn (z : Zone) (date : Date) : Prop :=
  ∃ reading, z.ShowsTwice reading ∧ reading / 86400 = date.dayNumber

/-- The clock shows times of a date twice exactly if it is put back on that date. -/
theorem repeatsOn_iff {date : Date} :
    z.RepeatsOn date ↔
      ∃ turn, z.PutsBack turn ∧ (turn + z.standard) / 86400 = date.dayNumber := by
  constructor
  · rintro ⟨reading, htwice, hday⟩
    obtain ⟨turn, hturns, hstart, hend⟩ := htwice.exists_putsBack
    have hnight := hturns.at_night
    exact ⟨turn, hturns, by omega⟩
  · rintro ⟨turn, hturns, hday⟩
    exact ⟨_, (hturns.showsTwice_iff (by omega) (by omega)).mpr (by omega), hday⟩

section Day

variable {e reading u : Int} {date : Date} (hdate : z.wall e / 86400 = date.dayNumber)
  (hreading : reading / 86400 = date.dayNumber) (hinner : IsInner reading false)
  (hu : z.secondOf reading false = .ok u)
include hdate hreading hu

/-- 24 hours after a time of a day less than an hour of the day is left. -/
theorem lt_dayAfter : e - 3600 < u + 86400 := by
  have hcases := secondOf_cases hu
  have hoffset := z.offset_cases e
  unfold wall at hdate
  omega

include hinner

/-- If the day goes on more than 24 hours after one of its times, the clock is put back between the
two. -/
theorem putsBack_of_dayAfter_lt (hlt : u + 86400 < e) :
    (∃ turn, z.PutsBack turn ∧ u < turn ∧ turn ≤ e) ∧ u = reading - z.standard - 3600 ∧
      e = z.wall e - z.standard := by
  obtain ⟨u', hu', hcases, hshows⟩ := secondOf_spec (z := z) hinner
  cases hu.symm.trans hu'
  have hoffset := z.offset_cases e
  have hwinter : z.offset e = z.standard := by
    unfold wall at hdate
    omega
  have hfirst : u = reading - z.standard - 3600 := by
    unfold wall at hdate
    omega
  have hnear : e ≤ u + 93600 := by
    unfold wall at hdate
    omega
  refine ⟨?_, hfirst, by rw [wall, hwinter, Int.add_sub_cancel]⟩
  by_cases hsummer : z.offset u = z.standard + 3600
  · exact exists_putsBack ⟨by omega, by omega⟩ hsummer hwinter
  · -- a reading that is skipped in spring comes days before the clock is put back
    have hlater : z.offset (u + 3600) = z.standard + 3600 := by
      by_contra hstandard
      have hoffset' := z.offset_cases (u + 3600)
      have hwall := hshows (u + 3600)
      unfold wall at hwall
      omega
    obtain ⟨turn, hturns, hafter, hbefore⟩ :=
      exists_putsBack (z := z) (u := u + 3600) (v := e) (by omega) hlater hwinter
    exact absurd (hturns.before u (by omega) (by omega)) hsummer

/-- The day goes on more than 24 hours after one of its times exactly if the clock is put back on it
and shows more than 23 hours later. -/
theorem dayAfter_lt_iff : u + 86400 < e ↔ z.RepeatsOn date ∧ reading + 82800 < z.wall e := by
  rw [repeatsOn_iff]
  constructor
  · intro hlt
    obtain ⟨⟨turn, hturns, hafter, hbefore⟩, hfirst, hlast⟩ :=
      putsBack_of_dayAfter_lt hdate hreading hinner hu hlt
    have hnight := hturns.at_night
    exact ⟨⟨turn, hturns, by omega⟩, by omega⟩
  · rintro ⟨⟨turn, hturns, hday⟩, hlate⟩
    have hnight := hturns.at_night
    have hoffset := z.offset_cases e
    have hfirst : u = reading - (z.standard + 3600) := by
      have hbefore := hturns.secondOf_before hinner (by omega) (by omega)
      exact Except.ok.inj (hu.symm.trans hbefore)
    have hwall : z.wall e = e + z.offset e := rfl
    have hlast : z.offset e = z.standard := hturns.after e (by omega) (by omega)
    omega

end Day

end Agenda.Clock.Zone

namespace Agenda.Phrase

open Calendar Clock

/-- A time of day names no second that has gone by, except on a day on which the clock is put back:
more than 23 hours after a time of that day, as the clock shows it, the time names a second of the
last hour. -/
theorem resolveTime_past_iff {clock : WallClock} {e : Int} {now : LocalTime}
    (hnow : clock.zone.toLocal (.ofSeconds e) = .ok now)
    (hyear : 2 ≤ now.date.year ∧ now.date.year ≤ 9998) {text : Text} {second : Int}
    (hsecond : resolveTime clock (.counted (.ofInt e)) (some text) = .ok (some second)) :
    e - 3600 < second ∧
      (second < e ↔ clock.zone.RepeatsOn now.date ∧
        ∃ hour minute rest, timeOfDay text = .accept (hour, minute) rest ∧
          todayAt now hour minute + 82800 < now.reading) := by
  rw [resolveTime_eq_readTime (WallClock.resolve_counted hnow)] at hsecond
  obtain ⟨hour, minute, rest, hread⟩ := readTime_accept hsecond
  obtain ⟨htime, _⟩ := timeOfDay_accept hread
  obtain ⟨today, htoday, hu, hinner⟩ := exists_secondOf_today (z := clock.zone) hyear htime
  rw [readTime_eq hread htoday (Zone.toCount_toLocal hnow hyear), Except.ok.injEq,
    Option.some.injEq] at hsecond
  simp only [Int.cast_lt] at hsecond
  have hdate := (Zone.dayNumber_toLocal hnow).symm
  have hday : todayAt now hour minute / 86400 = now.date.dayNumber := by
    unfold todayAt
    omega
  have hlast := Zone.lt_dayAfter hdate hday hu
  have hpast := Zone.dayAfter_lt_iff hdate hday hinner hu
  have hreads : (∃ hour minute rest, timeOfDay text = .accept (hour, minute) rest ∧
      todayAt now hour minute + 82800 < now.reading) ↔
        todayAt now hour minute + 82800 < now.reading := by
    constructor
    · rintro ⟨_, _, _, hread', hlate⟩
      cases hread.symm.trans hread'
      exact hlate
    · exact fun hlate => ⟨hour, minute, rest, hread, hlate⟩
  rw [hreads, (Zone.ofReading_spec (Zone.toLocal_spec hnow).1).2.1, ← hpast]
  split_ifs at hsecond <;> omega

/-- On the day of 25 hours, half past midnight is moved on to half past eleven in the evening, which
is now: just 23 hours later, as the clock shows it. -/
theorem resolveTime_past_long_day :
    let clock : WallClock := ⟨.eastAmerica, .ofInt 0⟩
    let late : LocalTime := .on ⟨2026, 11, 1, by decide⟩ ⟨23, 30, 0, by decide⟩
    resolveTime clock (.counted (.ofInt 1793593800)) (some "12:30am".toList) =
        .ok (some 1793593800) ∧
      clock.zone.RepeatsOn late.date ∧
      ¬ ∃ hour minute rest, timeOfDay "12:30am".toList = .accept (hour, minute) rest ∧
        todayAt late hour minute + 82800 < late.reading := by
  intro clock late
  have hnow : clock.zone.toLocal (.ofSeconds 1793593800) = .ok late := by decide +kernel
  have hsecond : resolveTime clock (.counted (.ofInt 1793593800)) (some "12:30am".toList) =
      .ok (some 1793593800) := by decide +kernel
  have hrepeats : clock.zone.RepeatsOn late.date :=
    ⟨_, ⟨1793511000, 1793514600, by decide, rfl, by decide +kernel⟩, by decide +kernel⟩
  have hpast := (resolveTime_past_iff hnow (by decide) hsecond).2
  exact ⟨hsecond, hrepeats, fun hlate => lt_irrefl _ (hpast.mpr ⟨hrepeats, hlate⟩)⟩

/-- On that day, midnight is moved on to eleven in the evening, which has gone by at half past. -/
theorem resolveTime_past_midnight :
    let clock : WallClock := ⟨.eastAmerica, .ofInt 0⟩
    clock.zone.toLocal (.ofSeconds 1793593800) =
        .ok (.on ⟨2026, 11, 1, by decide⟩ ⟨23, 30, 0, by decide⟩) ∧
      resolveTime clock (.counted (.ofInt 1793593800)) (some "12am".toList) =
        .ok (some 1793592000) ∧
      (1793592000 : Int) < 1793593800 := by
  decide +kernel

end Agenda.Phrase
