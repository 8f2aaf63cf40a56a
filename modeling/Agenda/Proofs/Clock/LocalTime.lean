import Agenda.Clock.LocalTime
import Agenda.Proofs.Clock.Zone
import Agenda.Proofs.Fault
import Mathlib

/-!
Turning local times into seconds and back. Away from the ends of the calendar neither can fail, the
second of a reading is the reading less one of the two offsets of the zone, and a reading that the
clock shows once has the second at which it is shown.
-/

namespace Agenda.Clock

open Calendar

/-- A reading lies in the day of its date. -/
theorem LocalTime.reading_bounds (t : LocalTime) :
    86400 * t.date.dayNumber ≤ t.reading ∧ t.reading < 86400 * t.date.dayNumber + 86400 := by
  have hinDay := t.time.inDay
  unfold reading TimeOfDay.seconds
  omega

/-- A reading tells the date and the time of day. -/
theorem LocalTime.eq_of_reading_eq {t t' : LocalTime} (h : t.reading = t'.reading) :
    t.date = t'.date ∧ t.time = t'.time := by
  have hin := t.reading_bounds
  have hin' := t'.reading_bounds
  have hday : t.date.dayNumber = t'.date.dayNumber := by omega
  unfold reading at h
  exact ⟨Date.eq_of_dayNumber_eq hday, TimeOfDay.eq_of_seconds_eq (by omega)⟩

namespace Zone

theorem standard_bounds (z : Zone) : -18000 ≤ z.standard ∧ z.standard ≤ 36000 := by
  cases z <;> decide

theorem standard_mod (z : Zone) : z.standard % 1800 = 0 := by
  cases z <;> decide

theorem offset_cases (z : Zone) (u : Int) :
    z.offset u = z.standard ∨ z.offset u = z.standard + 3600 := by
  unfold offset
  split
  · exact Or.inr rfl
  · exact Or.inl rfl

/-- The readings of the calendar. -/
def InSpan (reading : Int) : Prop := -62135596800 ≤ reading ∧ reading < 253402300800

theorem inSpan_iff (reading : Int) : InSpan reading ↔ InCalendar (reading / 86400) := by
  rw [inCalendar_iff, InSpan]
  omega

private theorem isNearYear_of_day {u : Int} (h : -719163 ≤ u / 86400 ∧ u / 86400 ≤ 2932897) :
    isNearYear (yearOf u) = true := by
  obtain ⟨hstart, hstop⟩ := (yearOf_eq_iff u _).mp rfl
  have hzero : yearStart 0 = -719528 := rfl
  have hnext : yearStart 10001 = 2933263 := rfl
  have hfirst : 0 ≤ yearOf u := le_of_yearStart_le hstop (by omega)
  have hlast : yearOf u < 10001 := lt_of_lt_yearStart hstart (by omega)
  simp only [isNearYear, Date.fitsField, Bool.and_eq_true, decide_eq_true_eq]
  omega

/-- A reading of the calendar is shown without trouble. -/
theorem wallInCalendar_eq {z : Zone} {u : Int} (h : InSpan (z.wall u)) :
    z.wallInCalendar u = .ok (z.wall u) := by
  have hstandard := z.standard_bounds
  have hoffset := z.offset_cases u
  obtain ⟨hstart, hstop⟩ := (yearOf_eq_iff (z.wall u) _).mp rfl
  have hcalendar := (inSpan_iff _).mp h
  have hfirst : 1 ≤ yearOf (z.wall u) := le_of_yearStart_le hstop hcalendar.1
  have hlast : yearOf (z.wall u) ≤ 9999 :=
    Int.lt_add_one_iff.mp (lt_of_lt_yearStart hstart hcalendar.2)
  have hnear : z.isNear u = true := by
    unfold InSpan wall at h
    rw [isNear, isNearYear_of_day (by omega), isNearYear_of_day (by unfold wall; omega)]
    rfl
  unfold wallInCalendar
  dsimp only
  rw [if_neg (by simp [hnear]), if_pos ⟨hfirst, hlast⟩]

/-- A reading from which the calendar goes on long enough in both directions. -/
structure IsInner (reading : Int) (again : Bool) : Prop where
  after_start : -62135596800 + 90000 ≤ reading
  before_end : reading + 39600 < 253402300800
  before_end_again : again = true → reading + 90000 < 253402300800

/-- The two candidates of a reading: it less the offset at the second that it names in universal
time, and it less another offset, a day before or after the first if that one shows the reading. -/
theorem secondOf_eq {z : Zone} {reading : Int} {again : Bool} (h : IsInner reading again) :
    ∃ probe, probe = (if again then reading - z.offset reading + 86400
        else reading - z.offset reading - 86400) ∧
      z.secondOf reading again = .ok (
      let first := reading - z.offset reading
      let second := reading - if z.wall first = reading then z.offset probe else z.offset first
      if z.wall first = reading ∧ z.offset reading = z.offset probe then first
      else if z.wall second = reading then second
      else if z.wall first = reading then first
      else if again then min first second else max first second) := by
  obtain ⟨hstart, hend, hendAgain⟩ := h
  have hstandard := z.standard_bounds
  have hspan : ∀ u, -62135596800 ≤ u + z.standard → u + z.standard + 3600 < 253402300800 →
      z.wallInCalendar u = .ok (z.wall u) := by
    intro u hu hu'
    have hoffset := z.offset_cases u
    apply wallInCalendar_eq
    unfold InSpan wall
    omega
  have hreading := z.offset_cases reading
  have hfirst := z.offset_cases (reading - z.offset reading)
  obtain ⟨probe, hprobe⟩ : ∃ probe, probe = if again then reading - z.offset reading + 86400
    else reading - z.offset reading - 86400 := ⟨_, rfl⟩
  have hother := z.offset_cases probe
  have hwall : ∀ u, z.wall u - u = z.offset u := fun u => by
    unfold wall
    omega
  have hatReading := hspan reading (by omega) (by omega)
  have hatFirst := hspan (reading - z.offset reading) (by omega) (by omega)
  have hatProbe : z.wallInCalendar probe = .ok (z.wall probe) := by
    cases again with
    | false =>
        rw [if_neg (by simp)] at hprobe
        exact hspan probe (by omega) (by omega)
    | true =>
        rw [if_pos rfl] at hprobe
        have := hendAgain rfl
        exact hspan probe (by omega) (by omega)
  have hatSecond : ∀ u, z.wallInCalendar (reading - z.offset u) =
      .ok (z.wall (reading - z.offset u)) := by
    intro u
    have hoffset := z.offset_cases u
    exact hspan (reading - z.offset u) (by omega) (by omega)
  refine ⟨probe, hprobe, ?_⟩
  unfold secondOf
  rw [hatReading]
  simp only [bind, Except.bind, hwall, hatFirst, ← hprobe]
  by_cases hshown : z.wall (reading - z.offset reading) = reading
  · simp only [hshown, if_true, hatProbe, pure, Except.pure, hwall, hatSecond]
    split_ifs <;> rfl
  · simp only [hshown, if_false, false_and, pure, Except.pure, hatSecond]
    split_ifs <;> rfl

theorem eq_of_wallInCalendar {z : Zone} {u shown : Int} (h : z.wallInCalendar u = .ok shown) :
    shown = z.wall u := by
  unfold wallInCalendar at h
  dsimp only at h
  split_ifs at h
  exact (Except.ok.inj h).symm

theorem inSpan_of_wallInCalendar {z : Zone} {u shown : Int} (h : z.wallInCalendar u = .ok shown) :
    InSpan (z.wall u) := by
  unfold wallInCalendar at h
  dsimp only at h
  split_ifs at h with hnear hyear
  obtain ⟨hstart, hstop⟩ := (yearOf_eq_iff (z.wall u) _).mp rfl
  have hfirst := yearStart_mono hyear.1
  have hlast := yearStart_mono (Int.add_le_add_right hyear.2 1)
  exact (inSpan_iff _).mpr ⟨hfirst.trans hstart, hstop.trans_le hlast⟩

/-- The second of a reading is the reading less an offset that the zone has at some time, wherever
the reading lies. -/
theorem exists_offset_of_secondOf {z : Zone} {reading u : Int} {again : Bool}
    (h : z.secondOf reading again = .ok u) : ∃ v, u = reading - z.offset v := by
  have hoffset : ∀ {v shown}, z.wallInCalendar v = .ok shown → shown - v = z.offset v := by
    intro v shown hshown
    rw [eq_of_wallInCalendar hshown, wall]
    omega
  unfold secondOf at h
  obtain ⟨atReading, hatReading, h⟩ := ok_of_bind h
  have hahead := hoffset hatReading
  dsimp only at h
  generalize atReading - reading = ahead at h hahead
  obtain ⟨shown, hshown, h⟩ := ok_of_bind h
  have hother : ∃ other, (∃ v, other = z.offset v) ∧
      (if shown = reading ∧ ahead = other then pure (reading - ahead)
        else do
          if (← z.wallInCalendar (reading - other)) = reading then return reading - other
          if shown = reading then return reading - ahead
          return if again then min (reading - ahead) (reading - other)
            else max (reading - ahead) (reading - other)) = Except.ok u := by
    by_cases hfirst : shown = reading
    · rw [if_pos hfirst] at h
      obtain ⟨atProbe, hatProbe, h⟩ := ok_of_bind h
      obtain ⟨other, hprobe, h⟩ := ok_of_bind h
      obtain rfl := Except.ok.inj hprobe
      exact ⟨_, ⟨_, hoffset hatProbe⟩, h⟩
    · rw [if_neg hfirst] at h
      obtain ⟨other, hdiffer, h⟩ := ok_of_bind h
      obtain rfl := Except.ok.inj hdiffer
      exact ⟨_, ⟨_, hoffset hshown⟩, h⟩
  obtain ⟨other, ⟨v, hv⟩, h⟩ := hother
  have hcandidate : u = reading - ahead ∨ u = reading - other := by
    split at h
    · exact Or.inl (Except.ok.inj h).symm
    · obtain ⟨atSecond, _, h⟩ := ok_of_bind h
      split_ifs at h <;>
      · have hu := Except.ok.inj h
        omega
  rcases hcandidate with hu | hu
  · exact ⟨reading, by rw [hu, hahead]⟩
  · exact ⟨v, by rw [hu, hv]⟩

theorem secondOf_cases {z : Zone} {reading u : Int} {again : Bool}
    (h : z.secondOf reading again = .ok u) :
    u = reading - z.standard ∨ u = reading - z.standard - 3600 := by
  obtain ⟨v, hv⟩ := exists_offset_of_secondOf h
  have hoffset := z.offset_cases v
  omega

/-- The second of a reading is the reading less one of the two offsets, and it shows the reading if
any second does. -/
theorem secondOf_spec {z : Zone} {reading : Int} {again : Bool} (h : IsInner reading again) :
    ∃ u, z.secondOf reading again = .ok u ∧
      (u = reading - z.standard ∨ u = reading - z.standard - 3600) ∧
      ∀ v, z.wall v = reading → z.wall u = reading := by
  obtain ⟨probe, _, heq⟩ := secondOf_eq (z := z) h
  refine ⟨_, heq, secondOf_cases heq, ?_⟩
  dsimp only
  by_cases hshown : z.wall (reading - z.offset reading) = reading
  · simp only [hshown, if_true, true_and]
    split_ifs with hagree hsecond
    · exact fun _ _ => hshown
    · exact fun _ _ => hsecond
    · exact fun _ _ => hshown
  · simp only [hshown, if_false, false_and]
    by_cases hsecond : z.wall (reading - z.offset (reading - z.offset reading)) = reading
    · rw [if_pos hsecond]
      exact fun _ _ => hsecond
    · rw [if_neg hsecond]
      -- a second that shows the reading is one of the two candidates
      intro v hv
      have hreading := z.offset_cases reading
      have hfirst := z.offset_cases (reading - z.offset reading)
      have hoffset := z.offset_cases v
      have hdiffer : z.offset (reading - z.offset reading) ≠ z.offset reading := by
        intro heq
        rw [wall, heq] at hshown
        omega
      have hv' : v = reading - z.offset v := by
        unfold wall at hv
        omega
      rcases eq_or_ne (z.offset v) (z.offset reading) with hsame | hother
      · rw [hsame] at hv'
        exact absurd (hv' ▸ hv) hshown
      · have hsame : z.offset v = z.offset (reading - z.offset reading) := by omega
        rw [hsame] at hv'
        exact absurd (hv' ▸ hv) hsecond

/-- A reading that the clock shows once has the second at which it is shown. -/
theorem ShowsOnce.secondOf_eq {z : Zone} {reading u : Int} {again : Bool}
    (h : z.ShowsOnce reading u) (hinner : IsInner reading again) :
    z.secondOf reading again = .ok u := by
  obtain ⟨v, hv, _, hshows⟩ := secondOf_spec (z := z) hinner
  rw [hv, h.unique (hshows u h.wall_eq)]

theorem truncate_intCast (n : Int) : Number.truncate (n : Rat) = n := by
  simp [Number.truncate]

/-- A time without a fraction of a second counts as its second. -/
theorem toCount_eq {z : Zone} {t : LocalTime} {u : Int} (hmicro : t.micro = 0)
    (h : z.secondOf t.reading t.again = .ok u) : z.toCount t = .ok u := by
  unfold toCount toSecond
  rw [h]
  simp only [bind, Except.bind, pure, Except.pure, hmicro, if_true]

theorem toTimestamp_eq {z : Zone} {t : LocalTime} {u : Int} (hmicro : t.micro = 0)
    (h : z.secondOf t.reading t.again = .ok u) : z.toTimestamp t = .ok u := by
  unfold toTimestamp
  rw [toCount_eq hmicro h]
  exact congrArg Except.ok (truncate_intCast u)

theorem secondOf_of_toCount {z : Zone} {t : LocalTime} {u : Int} (hmicro : t.micro = 0)
    (h : z.toCount t = .ok (u : Rat)) : z.secondOf t.reading t.again = .ok u := by
  obtain ⟨second, hsecond, _⟩ := ok_of_bind h
  rw [toCount_eq hmicro hsecond, Except.ok.injEq, Int.cast_inj] at h
  exact h ▸ hsecond

theorem secondOf_of_toTimestamp {z : Zone} {t : LocalTime} {second : Int} (hmicro : t.micro = 0)
    (h : z.toTimestamp t = .ok second) : z.secondOf t.reading t.again = .ok second := by
  obtain ⟨count, hcount, h⟩ := ok_of_bind h
  obtain ⟨u, hu, _⟩ := ok_of_bind hcount
  rw [toCount_eq hmicro hu, Except.ok.injEq] at hcount
  rw [← hcount] at h
  have hsame : u = second := (truncate_intCast u).symm.trans (Except.ok.inj h)
  exact hsame ▸ hu

/-- The times of a day that is a year away from the ends of the calendar. -/
theorem isInner_of_near {date : Date} (hyear : 2 ≤ date.year ∧ date.year ≤ 9998) (again : Bool)
    {second : Int} (hsecond : 0 ≤ second ∧ second < 86400) :
    IsInner (86400 * date.dayNumber + second) again := by
  have hbefore := Date.inCalendar_add hyear (-365) (by omega)
  have hafter := Date.inCalendar_add hyear 365 (by omega)
  rw [inCalendar_iff] at hbefore hafter
  exact ⟨by omega, by omega, fun _ => by omega⟩

theorem isInner_reading {t : LocalTime} (hyear : 2 ≤ t.date.year ∧ t.date.year ≤ 9998)
    (again : Bool) : IsInner t.reading again := by
  have htime := t.time.inDay
  exact isInner_of_near hyear again (by unfold TimeOfDay.seconds; omega)

theorem exists_toCount {z : Zone} {t : LocalTime} (h : IsInner t.reading t.again) :
    ∃ count, z.toCount t = .ok count := by
  obtain ⟨u, hu, _⟩ := secondOf_spec (z := z) h
  unfold toCount toSecond
  rw [hu]
  simp only [bind, Except.bind, pure, Except.pure]
  split_ifs
  · exact ⟨_, rfl⟩
  · exact ⟨_, rfl⟩

section Days

/-- The first day of the calendar. -/
def firstDay : Date := ⟨1, 1, 1, by decide⟩

/-- The day after it. -/
def secondDay : Date := ⟨1, 1, 2, by decide⟩

variable {date : Date}

theorem dayNumber_of_ne_firstDay (hdate : date ≠ firstDay) : -719162 < date.dayNumber := by
  have hcalendar := date.inCalendar_dayNumber
  have hfirst : firstDay.dayNumber = -719162 := by decide
  have hother : date.dayNumber ≠ firstDay.dayNumber := fun h => hdate (Date.eq_of_dayNumber_eq h)
  rw [inCalendar_iff] at hcalendar
  omega

/-- Midnight and the times that are not near a turn of the clock are shown once. -/
private theorem exists_shown (z : Zone) (time : TimeOfDay) (second : Int)
    (hsecond : time.seconds = second) (hcalm : second = 0 ∨ 10800 ≤ second)
    (hinner : IsInner (86400 * date.dayNumber + second) false) :
    ∃ u, z.toTimestamp (.on date time) = .ok u ∧
      z.ShowsOnce (86400 * date.dayNumber + second) u := by
  have htime := time.inDay
  unfold TimeOfDay.seconds at hsecond
  obtain ⟨u, hu⟩ := z.exists_showsOnce (r := 86400 * date.dayNumber + second)
    (by unfold IsCalm; omega)
  subst hsecond
  exact ⟨u, toTimestamp_eq rfl (hu.secondOf_eq hinner), hu⟩

/-- The first day of the calendar has no first second: to tell it, the clock is looked at a day before
as well, and shows no date then. -/
theorem dayStart_firstDay (z : Zone) : z.dayStart firstDay = .error (.yearOutside 0) := by
  cases z <;> rfl

private theorem exists_dayStart_secondDay (z : Zone) :
    ∃ u, z.dayStart secondDay = .ok u ∧ z.ShowsOnce (86400 * secondDay.dayNumber) u := by
  obtain ⟨u, hu⟩ := z.exists_showsOnce (r := 86400 * secondDay.dayNumber) (Or.inl (by decide))
  have hstart : ∃ v, z.dayStart secondDay = .ok v ∧ z.wall v = 86400 * secondDay.dayNumber := by
    cases z <;> exact ⟨_, rfl, by decide⟩
  obtain ⟨v, hv, hwall⟩ := hstart
  exact ⟨u, hu.unique hwall ▸ hv, hu⟩

/-- The first second of any other day is the one at which the clock shows midnight. -/
theorem exists_dayStart_of_ne (z : Zone) (hdate : date ≠ firstDay) :
    ∃ u, z.dayStart date = .ok u ∧ z.ShowsOnce (86400 * date.dayNumber) u := by
  have hcalendar := date.inCalendar_dayNumber
  rw [inCalendar_iff] at hcalendar
  have hlate := dayNumber_of_ne_firstDay hdate
  have hsecond : secondDay.dayNumber = -719161 := by decide
  rcases eq_or_ne date.dayNumber secondDay.dayNumber with hsame | hlater
  · rw [Date.eq_of_dayNumber_eq hsame]
    exact exists_dayStart_secondDay z
  · have hinner : IsInner (86400 * date.dayNumber + 0) false := ⟨by omega, by omega, by simp⟩
    have hshown := exists_shown z .midnight 0 rfl (Or.inl rfl) hinner
    rwa [Int.add_zero] at hshown

/-- The first second of a day that is not near the ends of the calendar. -/
theorem exists_dayStart (z : Zone) (h : date.IsInner) :
    ∃ u, z.dayStart date = .ok u ∧ z.ShowsOnce (86400 * date.dayNumber) u := by
  apply exists_dayStart_of_ne
  rintro rfl
  exact absurd h.before.1 (by decide)

/-- The same from the second year on up to the end of the calendar. -/
theorem exists_midnight (z : Zone) (hyear : 2 ≤ date.year) :
    ∃ u, z.dayStart date = .ok u ∧ z.ShowsOnce (86400 * date.dayNumber) u := by
  apply exists_dayStart_of_ne
  rintro rfl
  exact absurd hyear (by decide)

/-- The last second of a day is the one at which the clock shows the second before midnight. -/
theorem exists_dayEnd (z : Zone) (h : date.IsInner) :
    ∃ u, z.dayEnd date = .ok u ∧ z.ShowsOnce (86400 * date.dayNumber + 86399) u := by
  obtain ⟨hbefore, hafter⟩ := h
  rw [inCalendar_iff] at hbefore hafter
  exact exists_shown z .lastSecond 86399 rfl (by omega) ⟨by omega, by omega, by simp⟩

/-- The morning of a day is the second at which the clock shows nine. -/
theorem exists_morning (z : Zone) (hyear : 2 ≤ date.year) :
    ∃ u, z.toTimestamp (.on date .morning) = .ok u ∧
      z.ShowsOnce (86400 * date.dayNumber + 32400) u := by
  have hbegin := Date.le_dayNumber hyear
  have hcalendar := date.inCalendar_dayNumber
  rw [inCalendar_iff] at hcalendar
  exact exists_shown z .morning 32400 rfl (by omega) ⟨by omega, by omega, by simp⟩

end Days

/-- A reading shown at a second differs from the second by whole half hours. -/
theorem ShowsOnce.mod_eq {z : Zone} {reading u : Int} (h : z.ShowsOnce reading u) :
    u % 1800 = reading % 1800 := by
  have hwall := h.wall_eq
  have hstandard := z.standard_mod
  have hoffset := z.offset_cases u
  unfold wall at hwall
  omega

theorem ofReading_spec {reading : Int} {micro : Nat} {again : Bool} {t : LocalTime}
    (h : LocalTime.ofReading reading micro again = .ok t) :
    t.date.dayNumber = reading / 86400 ∧ t.reading = reading ∧ t.micro = micro % 1000000 ∧
      t.again = again ∧ LocalTime.ofReading reading micro false = .ok { t with again := false } := by
  unfold LocalTime.ofReading at h ⊢
  split at h
  · next date hdate =>
      have hnumber := Date.dayNumber_of_ofDayNumber? hdate
      cases h
      refine ⟨hnumber, ?_, rfl, rfl, rfl⟩
      unfold LocalTime.reading LocalTime.withMicros TimeOfDay.ofSeconds TimeOfDay.seconds
      dsimp only
      omega
  · cases h

/-- Every reading of the calendar is that of a local time. -/
theorem exists_ofReading {reading : Int} (h : InSpan reading) (micro : Nat) (again : Bool) :
    ∃ t, LocalTime.ofReading reading micro again = .ok t := by
  obtain ⟨date, hdate, _⟩ := Date.exists_ofDayNumber? ((inSpan_iff _).mp h)
  unfold LocalTime.ofReading
  rw [hdate]
  exact ⟨_, rfl⟩

theorem seconds_ofSeconds (u : Int) : (Instant.ofSeconds u).seconds = u := by
  simp [Instant.ofSeconds, Instant.seconds]

theorem fraction_ofSeconds (u : Int) : (Instant.ofSeconds u).fraction = 0 := by
  simp [Instant.ofSeconds, Instant.fraction]

/-- The local time of a second is what the clock shows. It is a second pass exactly if the clock has
come less than a day further in the last 24 hours and has shown the same an hour before. -/
theorem toLocal_spec {z : Zone} {u : Int} {t : LocalTime} (h : z.toLocal (.ofSeconds u) = .ok t) :
    LocalTime.ofReading (z.wall u) 0 t.again = .ok t ∧
      (t.again = true ↔
        z.wall u - z.wall (u - 86400) < 86400 ∧ z.wall (u - 3600) = z.wall u) := by
  unfold toLocal at h
  rw [seconds_ofSeconds, fraction_ofSeconds] at h
  dsimp only at h
  split at h
  · obtain ⟨_, hthrow, _⟩ := ok_of_bind h
    cases hthrow
  · obtain ⟨shown, hshown, h⟩ := ok_of_bind h
    obtain ⟨before, hbefore, h⟩ := ok_of_bind h
    obtain rfl := eq_of_wallInCalendar hshown
    obtain rfl := eq_of_wallInCalendar hbefore
    split at h
    · next hchange =>
        obtain ⟨probed, hprobed, h⟩ := ok_of_bind h
        obtain ⟨again, hagain, h⟩ := ok_of_bind h
        obtain rfl := eq_of_wallInCalendar hprobed
        obtain rfl := Except.ok.inj hagain
        have hkept := (ofReading_spec h).2.2.2.1
        refine ⟨hkept ▸ h, ?_⟩
        rw [hkept, decide_eq_true_eq]
        -- the two offsets of a zone are an hour apart, so a day that is too long is so by an hour
        have hback : z.wall u - z.wall (u - 86400) - 86400 = -3600 := by
          have hoffset := z.offset_cases u
          have hoffset' := z.offset_cases (u - 86400)
          unfold wall at hchange ⊢
          omega
        rw [hback, ← Int.sub_eq_add_neg]
        exact ⟨fun hsame => ⟨by omega, hsame⟩, fun hboth => hboth.2⟩
    · next hchange =>
        obtain ⟨again, hagain, h⟩ := ok_of_bind h
        obtain rfl := Except.ok.inj hagain
        have hkept := (ofReading_spec h).2.2.2.1
        refine ⟨hkept ▸ h, ?_⟩
        rw [hkept]
        refine iff_of_false nofun ?_
        rintro ⟨hlong, _⟩
        omega

/-- The local date of a second is the day that the clock shows. -/
theorem dayNumber_toLocal {z : Zone} {u : Int} {t : LocalTime}
    (h : z.toLocal (.ofSeconds u) = .ok t) : t.date.dayNumber = z.wall u / 86400 :=
  (ofReading_spec (toLocal_spec h).1).1

/-- The clock had come to the start of the calendar a day ago exactly if it has come to the second
day of it. -/
theorem wall_dayBefore_iff (z : Zone) (u : Int) :
    -62135596800 ≤ z.wall (u - 86400) ↔ -62135596800 + 86400 ≤ z.wall u := by
  obtain ⟨first, hfirst⟩ := z.exists_showsOnce (r := -62135596800) (Or.inl (by decide))
  obtain ⟨second, hsecond⟩ := z.exists_showsOnce (r := -62135596800 + 86400) (Or.inl (by decide))
  -- no clock is changed on the first day, so it is a day long
  have hapart : ∃ v, z.wall v = -62135596800 ∧ z.wall (v + 86400) = -62135596800 + 86400 := by
    cases z with
    | utc => exact ⟨-62135596800, by decide, by decide⟩
    | ahead0530 => exact ⟨-62135616600, by decide, by decide⟩
    | behind0330 => exact ⟨-62135584200, by decide, by decide⟩
    | eastAmerica => exact ⟨-62135578800, by decide, by decide⟩
    | eastAustralia => exact ⟨-62135636400, by decide, by decide⟩
  obtain ⟨v, hv, hv'⟩ := hapart
  have hsame := hfirst.unique hv
  have hsame' := hsecond.unique hv'
  rw [← hfirst.le_iff, ← hsecond.le_iff]
  omega

/-- The clock shows a day of the calendar at the second, and not the first one. -/
def IsShown (z : Zone) (u : Int) : Prop :=
  -62135596800 + 86400 ≤ z.wall u ∧ z.wall u < 253402300800

/-- A second at which the clock shows a day of the calendar other than the first has a local time. -/
theorem exists_toLocal {z : Zone} {u : Int} (hstart : -62135596800 + 86400 ≤ z.wall u)
    (hend : z.wall u < 253402300800) : ∃ t, z.toLocal (.ofSeconds u) = .ok t := by
  have hstandard := z.standard_bounds
  have hoffset := z.offset_cases u
  have hoffset' := z.offset_cases (u - 86400)
  have hfits : fitsSeconds u = true := by
    simp only [fitsSeconds, Bool.and_eq_true, decide_eq_true_eq]
    unfold wall at hstart hend
    omega
  have hshown : z.wallInCalendar u = .ok (z.wall u) := by
    apply wallInCalendar_eq
    unfold InSpan
    omega
  have hbefore : z.wallInCalendar (u - 86400) = .ok (z.wall (u - 86400)) := by
    refine wallInCalendar_eq ⟨(z.wall_dayBefore_iff u).mpr hstart, ?_⟩
    unfold wall at hend ⊢
    omega
  have hreading : ∀ micro again, ∃ t, LocalTime.ofReading (z.wall u) micro again = .ok t :=
    exists_ofReading ⟨by omega, hend⟩
  unfold toLocal
  rw [seconds_ofSeconds]
  simp only [hfits, hshown, hbefore, bind, Except.bind, pure, Except.pure, Bool.not_true,
    Bool.false_eq_true, if_false]
  split_ifs with hchange
  · have hprobed : z.wallInCalendar (u + (z.wall u - z.wall (u - 86400) - 86400)) =
        .ok (z.wall (u + (z.wall u - z.wall (u - 86400) - 86400))) := by
      have hoffset'' := z.offset_cases (u + (z.wall u - z.wall (u - 86400) - 86400))
      apply wallInCalendar_eq
      unfold InSpan
      unfold wall at hstart hend hchange hoffset'' ⊢
      omega
    rw [hprobed]
    exact hreading _ _
  · exact hreading _ _

/-- No other second has one: the clock is looked at a day before as well. -/
theorem exists_toLocal_iff (z : Zone) (u : Int) :
    (∃ t, z.toLocal (.ofSeconds u) = .ok t) ↔ z.IsShown u := by
  constructor
  · rintro ⟨t, h⟩
    unfold toLocal at h
    rw [seconds_ofSeconds] at h
    dsimp only at h
    split at h
    · obtain ⟨_, hthrow, _⟩ := ok_of_bind h
      cases hthrow
    · obtain ⟨shown, hshown, h⟩ := ok_of_bind h
      obtain ⟨before, hbefore, _⟩ := ok_of_bind h
      exact ⟨(z.wall_dayBefore_iff u).mp (inSpan_of_wallInCalendar hbefore).1,
        (inSpan_of_wallInCalendar hshown).2⟩
  · rintro ⟨hstart, hend⟩
    exact exists_toLocal hstart hend

/-- At the morning of a day the clock shows nine, and the start of 1970 is no morning. -/
theorem exists_toLocal_morning (z : Zone) {date : Date} (hyear : 2 ≤ date.year) :
    ∃ u t, z.toTimestamp (.on date .morning) = .ok u ∧ z.toLocal (.ofSeconds u) = .ok t ∧
      t.date = date ∧ t.time = .morning ∧ u ≠ 0 := by
  obtain ⟨u, hu, hshows⟩ := exists_morning z hyear
  have hwall := hshows.wall_eq
  have hcalendar := date.inCalendar_dayNumber
  rw [inCalendar_iff] at hcalendar
  have hbegin := Date.le_dayNumber hyear
  obtain ⟨t, ht⟩ := exists_toLocal (z := z) (u := u) (by omega) (by omega)
  have hreading : t.reading = (LocalTime.on date .morning).reading := by
    rw [(ofReading_spec (toLocal_spec ht).1).2.1, hwall]
    rfl
  obtain ⟨hdate, htime⟩ := LocalTime.eq_of_reading_eq hreading
  refine ⟨u, t, hu, ht, hdate, htime, ?_⟩
  rintro rfl
  have hoffset := z.offset_cases 0
  unfold wall at hwall
  cases z <;> dsimp only [standard] at hoffset <;> omega

end Zone

end Agenda.Clock
