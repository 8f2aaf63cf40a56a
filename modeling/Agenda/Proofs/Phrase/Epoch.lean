import Agenda.Proofs.Clock.Epoch
import Agenda.Proofs.Phrase.Monotone
import Mathlib

/-!
Which phrases name the second 0, which stands for no date. No morning is the start of 1970 on any
clock, so a phrase that names it counts hours, minutes or days up to it, or is the time of day that
the clock shows then.
-/

namespace Agenda.Phrase

open Calendar Clock Scanner

/-- A time counted from now that comes to the start of 1970: so many days ahead the clock shows what
it shows then, or this minute starts so many hours or minutes before it. -/
def Offset.MeetsEpoch (z : Zone) (now : LocalTime) : Offset → Prop
  | .morning _ => False
  | .later amount .days => now.startOfMinute.reading + 86400 * amount = z.wall 0
  | .later amount unit =>
    z.toTimestamp now.startOfMinute.firstPass = .ok (-(amount * unit.seconds))

/-- A time of day whose next coming is the start of 1970: today's, if that has not gone by, or
tomorrow's, if today's has gone by. -/
def TimeMeetsEpoch (z : Zone) (now : LocalTime) (hour minute : Nat) : Prop :=
  ∃ count, z.toCount now = .ok count ∧
    (todayAt now hour minute = z.wall 0 ∧ count ≤ 0 ∨
      todayAt now hour minute + 86400 = z.wall 0 ∧ -86400 < count)

/-- The text starts with a time of day whose next coming is the start of 1970. -/
def NamesEpochAsTime (z : Zone) (now : LocalTime) (text : Text) : Prop :=
  ∃ hour minute rest, timeOfDay text = .accept (hour, minute) rest ∧
    TimeMeetsEpoch z now hour minute

/-- The text is a phrase for the start of 1970. -/
def NamesEpoch (z : Zone) (now : LocalTime) (text : Text) : Prop :=
  (∃ offset rest, relative now.date text = .accept offset rest ∧ offset.MeetsEpoch z now) ∨
    NamesEpochAsTime z now text

section Rules

variable {z : Zone} {now : LocalTime}

/-- Days later the clock shows the same time of day. -/
private theorem addDays_spec {days : Int} {base : LocalTime}
    (h : now.startOfMinute.addDays days = .ok base) :
    base.micro = 0 ∧ base.reading = now.startOfMinute.reading + 86400 * days := by
  obtain ⟨date, hdate, hbase⟩ := ok_of_bind h
  have hnumber := Date.dayNumber_of_addDays hdate
  obtain rfl := (Except.ok.inj hbase).symm
  refine ⟨rfl, ?_⟩
  unfold LocalTime.reading
  dsimp only
  omega

/-- The days up to the start of 1970 are on the calendar. -/
private theorem exists_addDays_to_epoch (hyear : 2 ≤ now.date.year) {amount : Nat}
    (h : now.startOfMinute.reading + 86400 * amount = z.wall 0) :
    ∃ base, now.startOfMinute.addDays amount = .ok base := by
  have hwall := z.wall_epoch_bounds
  have hday : 86400 * now.date.dayNumber ≤ now.startOfMinute.reading :=
    now.startOfMinute.reading_bounds.1
  have hbegin := Date.le_dayNumber hyear
  obtain ⟨date, hdate, _⟩ := Date.exists_addDays now.date amount (by omega)
    (by rw [inCalendar_iff]; omega)
  unfold LocalTime.addDays
  rw [show now.startOfMinute.date = now.date from rfl, hdate]
  exact ⟨_, rfl⟩

private theorem laterBy_days_iff (hyear : 2 ≤ now.date.year) (amount : Nat) :
    laterBy z now amount .days = .ok 0 ↔
      now.startOfMinute.reading + 86400 * amount = z.wall 0 := by
  constructor
  · intro h
    obtain ⟨base, hbase, h⟩ := ok_of_bind h
    obtain ⟨start, hstart, h⟩ := ok_of_bind h
    obtain ⟨_, _, h⟩ := ok_of_bind h
    obtain ⟨hmicro, hreading⟩ := addDays_spec hbase
    have hsum : start + 0 = 0 := Except.ok.inj h
    rw [← hreading, ← Zone.toTimestamp_epoch_iff z hmicro, hstart]
    congr 1
    omega
  · intro h
    obtain ⟨base, hbase⟩ := exists_addDays_to_epoch hyear h
    obtain ⟨hmicro, hreading⟩ := addDays_spec hbase
    have hsecond := (Zone.toTimestamp_epoch_iff z hmicro).mpr (hreading.trans h)
    obtain ⟨t, ht⟩ := z.exists_toLocal_epoch
    unfold laterBy
    simp only [hbase, hsecond, bind, Except.bind, Int.add_zero, ht]
    rfl

private theorem laterBy_units_iff (amount : Nat) {unit : Span} (hunit : unit ≠ .days) :
    laterBy z now amount unit = .ok 0 ↔
      z.toTimestamp now.startOfMinute.firstPass = .ok (-(amount * unit.seconds)) := by
  obtain ⟨t, ht⟩ := z.exists_toLocal_epoch
  rw [laterBy_eq z now amount hunit]
  constructor
  · intro h
    obtain ⟨start, hstart, h⟩ := ok_of_bind h
    obtain ⟨_, _, h⟩ := ok_of_bind h
    have hsum := Except.ok.inj h
    rw [hstart]
    congr 1
    omega
  · intro h
    rw [h]
    simp only [bind, Except.bind, neg_add_cancel, ht]
    rfl

theorem relative_morning {today : Date} {text rest : Text} {days : Int}
    (h : relative today text = .accept (.morning days) rest) : 1 ≤ days ∧ days ≤ 7 := by
  cases follows_relative le_rfl h h with
  | morning hnear _ _ => exact hnear

variable (hyear : 2 ≤ now.date.year ∧ now.date.year ≤ 9998)
include hyear

/-- No morning is the start of 1970. -/
theorem morningAfter_ne_epoch {days : Int} (hdays : 1 ≤ days ∧ days ≤ 7) :
    morningAfter z now days ≠ .ok 0 := by
  obtain ⟨date, _, hlater, hmorning⟩ := exists_date_of_morningAfter hyear hdays
  obtain ⟨second, _, hsecond, _, _, _, hne⟩ := Zone.exists_toLocal_morning z hlater
  rw [hmorning, hsecond]
  exact fun h => hne (Except.ok.inj h)

theorem nextMonthDay_ne_epoch {month day : Nat} (hmonth : 1 ≤ month ∧ month ≤ 12)
    (hday : 1 ≤ day ∧ day ≤ 31) : nextMonthDay z now month day ≠ .ok 0 := by
  obtain ⟨this, next, _, _, hthisYear, hnextYear, heq⟩ :=
    exists_dates_of_nextMonthDay hyear hmonth hday
  obtain ⟨second, _, hsecond, _, _, _, hne⟩ := Zone.exists_toLocal_morning z hthisYear
  obtain ⟨later, _, hlater, _, _, _, hne'⟩ := Zone.exists_toLocal_morning z hnextYear
  obtain ⟨count, hcount⟩ :=
    Zone.exists_toCount (z := z) (Zone.isInner_reading hyear now.again)
  rw [heq, hsecond, hlater]
  simp only [bind, Except.bind, hcount]
  split
  · exact fun h => hne' (Except.ok.inj h)
  · exact fun h => hne (Except.ok.inj h)

theorem offset_second_epoch_iff {text rest : Text} {offset : Offset}
    (hread : relative now.date text = .accept offset rest) :
    offset.second z now = .ok 0 ↔ offset.MeetsEpoch z now := by
  cases offset with
  | morning days =>
      exact iff_of_false (morningAfter_ne_epoch hyear (relative_morning hread)) id
  | later amount unit =>
      cases unit with
      | days => exact laterBy_days_iff hyear.1 amount
      | hours =>
          have hunit : Span.hours ≠ .days := by decide
          exact laterBy_units_iff amount hunit
      | minutes =>
          have hunit : Span.minutes ≠ .days := by decide
          exact laterBy_units_iff amount hunit

theorem readRelative_epoch_iff (text : Text) :
    readRelative z now text = .ok (some 0) ↔
      ∃ offset rest, relative now.date text = .accept offset rest ∧ offset.MeetsEpoch z now := by
  constructor
  · intro h
    obtain ⟨offset, rest, hread, hsecond⟩ := readRelative_accept h
    exact ⟨offset, rest, hread, (offset_second_epoch_iff hyear hread).mp hsecond⟩
  · rintro ⟨offset, rest, hread, hmeets⟩
    have hsecond := (offset_second_epoch_iff hyear hread).mpr hmeets
    unfold readRelative
    rw [hread]
    cases offset with
    | morning days => cases hmeets
    | later amount unit =>
        change (do return (laterBy z now amount unit).toOption) = _
        rw [show laterBy z now amount unit = .ok 0 from hsecond]
        rfl

theorem readAbsolute_ne_epoch (text : Text) : readAbsolute z now text ≠ .ok (some 0) := by
  intro h
  rcases readAbsolute_accept h with ⟨month, day, _, hread, hsecond⟩ | ⟨_, day, _, _, hsecond⟩
  · obtain ⟨hmonth, hday⟩ := monthDay_accept hread
    exact nextMonthDay_ne_epoch hyear hmonth hday hsecond
  · exact morningAfter_ne_epoch hyear (now.date.daysUntil_bounds day) hsecond

/-- A time of today is the start of 1970, or a day before it, exactly if the clock shows it then. -/
private theorem exists_timeToday_epoch {hour minute : Nat} (htime : hour ≤ 23 ∧ minute ≤ 59) :
    ∃ second, ((Draft.ofLocal now).atTime hour minute 0).toTimestamp z = .ok second ∧
      (second = 0 ↔ todayAt now hour minute = z.wall 0) ∧
      (second = -86400 ↔ todayAt now hour minute + 86400 = z.wall 0) := by
  obtain ⟨time, hlocal, hreading⟩ := exists_today hyear.1 htime
  have hinner : Zone.IsInner (LocalTime.on now.date time).reading false :=
    Zone.isInner_reading (t := .on now.date time) hyear false
  obtain ⟨second, hsecond, _⟩ := Zone.secondOf_spec (z := z) hinner
  have htoday : z.toTimestamp (.on now.date time) = .ok second := Zone.toTimestamp_eq rfl hsecond
  have hzero := Zone.toTimestamp_epoch_iff z (t := .on now.date time) rfl
  have hbefore := Zone.toTimestamp_dayBefore_epoch_iff z (t := .on now.date time) rfl
  rw [htoday, hreading, Except.ok.injEq] at hzero hbefore
  refine ⟨second, ?_, hzero, hbefore⟩
  rw [Draft.toTimestamp, hlocal]
  exact htoday

private theorem readTime_epoch_iff_of_accept {text rest : Text} {hour minute : Nat}
    (hread : timeOfDay text = .accept (hour, minute) rest) :
    readTime z now text = .ok (some 0) ↔ TimeMeetsEpoch z now hour minute := by
  obtain ⟨second, hsecond, hzero, hbefore⟩ :=
    exists_timeToday_epoch (z := z) hyear (timeOfDay_accept hread).1
  obtain ⟨count, hcount⟩ := Zone.exists_toCount (z := z) (Zone.isInner_reading hyear now.again)
  rw [readTime_eq hread hsecond hcount, Except.ok.injEq, Option.some.injEq]
  constructor
  · intro h
    refine ⟨count, hcount, ?_⟩
    split_ifs at h with hpast
    · have hday : second = -86400 := by omega
      rw [hday] at hpast
      exact Or.inr ⟨hbefore.mp hday, by simpa using hpast⟩
    · rw [h] at hpast
      exact Or.inl ⟨hzero.mp h, by simpa using hpast⟩
  · rintro ⟨count', hcount', hcases⟩
    cases hcount.symm.trans hcount'
    rcases hcases with ⟨hat, hahead⟩ | ⟨hat, hpast⟩
    · rw [hzero.mpr hat, if_neg (by simpa using hahead)]
    · rw [hbefore.mpr hat, if_pos (by simpa using hpast)]
      rfl

/-- The time of day that comes next is the start of 1970 only if the clock shows it then. -/
theorem readTime_epoch_iff (text : Text) :
    readTime z now text = .ok (some 0) ↔ NamesEpochAsTime z now text := by
  constructor
  · intro h
    obtain ⟨hour, minute, rest, hread⟩ := readTime_accept h
    exact ⟨hour, minute, rest, hread, (readTime_epoch_iff_of_accept hyear hread).mp h⟩
  · rintro ⟨hour, minute, rest, hread, hmeets⟩
    exact (readTime_epoch_iff_of_accept hyear hread).mpr hmeets

theorem firstRule_epoch_iff (text : Text) :
    firstRule rules z now text = .ok (some 0) ↔ NamesEpoch z now text := by
  rw [firstRule_eq_some_iff, NamesEpoch, ← readRelative_epoch_iff hyear, ← readTime_epoch_iff hyear]
  constructor
  · rintro ⟨rule, hrule, h⟩
    simp only [rules, List.mem_cons, List.not_mem_nil, or_false] at hrule
    rcases hrule with rfl | rfl | rfl
    · exact Or.inl h
    · exact absurd h (readAbsolute_ne_epoch hyear text)
    · exact Or.inr h
  · rintro (h | h)
    · exact ⟨readRelative, by simp [rules], h⟩
    · exact ⟨readTime, by simp [rules], h⟩

end Rules

end Agenda.Phrase
