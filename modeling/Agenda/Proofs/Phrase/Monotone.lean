import Agenda.Proofs.Clock.Anchor
import Agenda.Proofs.Clock.Steady
import Agenda.Proofs.Phrase.Grammar
import Agenda.Proofs.Phrase.Morning
import Agenda.Proofs.Phrase.Repeated
import Mathlib

/-!
Phrases never go back as time goes by. On a clock that is never changed, what a phrase names at a
later second is no earlier than what it names now: a time or a day comes round again, on the next
day, in the next week or in the next year, only after it has gone by.
-/

namespace Agenda.Phrase

open Calendar Clock Scanner

/-- The rule names no earlier seconds as time goes by. -/
def Advances (rule : Rule) : Prop :=
  ∀ {z : Zone} {e e' : Int} {now later : LocalTime} {text : Text} {second second' : Int},
    ShowsSteadily z e now → ShowsSteadily z e' later → e ≤ e' →
      rule z now text = .ok (some second) → rule z later text = .ok (some second') →
        second ≤ second'

/-- What one phrase comes to on two days: the same amount, or two mornings in order. -/
inductive Offset.Follows (today later : Date) : Offset → Offset → Prop where
  | morning {days days' : Int} (near : 1 ≤ days ∧ days ≤ 7) (near' : 1 ≤ days' ∧ days' ≤ 7)
      (le : today.dayNumber + days ≤ later.dayNumber + days') :
      Follows today later (.morning days) (.morning days')
  | later (amount : Nat) (unit : Span) :
      Follows today later (.later amount unit) (.later amount unit)

section Days

variable {today later : Date} (hday : today.dayNumber ≤ later.dayNumber)
include hday

theorem Offset.follows_daysUntil {weekday : Nat} (h : weekday < 7) :
    Offset.Follows today later (.morning (today.daysUntil weekday))
      (.morning (later.daysUntil weekday)) :=
  .morning (today.daysUntil_bounds weekday) (later.daysUntil_bounds weekday)
    ((today.isNext_daysUntil weekday h).mono (later.isNext_daysUntil weekday h) hday)

theorem follows_nextWeekday {text rest rest' : Text} {offset offset' : Offset}
    (h : nextWeekday today text = .accept offset rest)
    (h' : nextWeekday later text = .accept offset' rest') :
    offset.Follows today later offset' := by
  obtain ⟨_, middle, hblanks, h⟩ := accept_of_bind h
  obtain ⟨_, middle', hblanks', h'⟩ := accept_of_bind h'
  cases hblanks.symm.trans hblanks'
  obtain ⟨weekday, _, hread, h⟩ := accept_of_bind h
  obtain ⟨weekday', _, hread', h'⟩ := accept_of_bind h'
  cases hread.symm.trans hread'
  cases h
  cases h'
  exact Offset.follows_daysUntil hday (nameIn_accept hread)

end Days

/-- Only a weekday looks at the day, so one text is read by the same alternative on both days. -/
theorem follows_relative {today later : Date} (hday : today.dayNumber ≤ later.dayNumber)
    {text rest rest' : Text} {offset offset' : Offset}
    (h : relative today text = .accept offset rest)
    (h' : relative later text = .accept offset' rest') : offset.Follows today later offset' := by
  unfold relative at h h'
  rw [bind_of_accept (blanks_text text)] at h h'
  rcases accept_of_orElse h with htomorrow | ⟨hreject, h⟩
  · rw [orElse_of_accept htomorrow] at h'
    cases h'
    obtain ⟨_, _, _, hvalue⟩ := accept_of_bind htomorrow
    cases hvalue
    exact .morning (by omega) (by omega) (by omega)
  · rw [orElse_of_reject hreject] at h'
    rcases accept_of_orElse h with hin | ⟨hreject, h⟩
    · rw [orElse_of_accept hin] at h'
      cases h'
      obtain ⟨_, _, _, hamount⟩ := accept_of_bind hin
      obtain ⟨amount, unit, rfl⟩ := amountAhead_accept hamount
      exact .later amount unit
    · rw [orElse_of_reject hreject] at h'
      obtain ⟨_, _, hnext, h⟩ := accept_of_bind h
      obtain ⟨_, _, hnext', h'⟩ := accept_of_bind h'
      cases hnext.symm.trans hnext'
      exact follows_nextWeekday hday h h'

/-- The seconds of a unit of time. -/
def Span.seconds : Span → Int
  | .days => 86400
  | .hours => 3600
  | .minutes => 60

theorem Span.seconds_nonneg (unit : Span) : 0 ≤ unit.seconds := by
  cases unit <;> decide

/-- The second of a day or a time counted from now. -/
def Offset.second (z : Zone) (now : LocalTime) : Offset → Except Fault Int
  | .morning days => morningAfter z now days
  | .later amount unit => laterBy z now amount unit

theorem reading_startOfMinute (t : LocalTime) :
    t.startOfMinute.reading = 60 * (t.reading / 60) := by
  have hinDay := t.time.inDay
  simp only [LocalTime.startOfMinute, LocalTime.reading, TimeOfDay.seconds]
  omega

/-- The start of this minute is on the calendar as it is. -/
theorem addDays_zero (now : LocalTime) :
    now.startOfMinute.addDays 0 = .ok now.startOfMinute.firstPass := by
  obtain ⟨date, hdate, hnumber⟩ := Date.exists_addDays now.date 0 (by omega)
    (by rw [Int.add_zero]; exact now.date.inCalendar_dayNumber)
  rw [Date.eq_of_dayNumber_eq (a := date) (b := now.date) (by omega)] at hdate
  unfold LocalTime.addDays
  rw [show now.startOfMinute.date = now.date from rfl, hdate]
  rfl

/-- Hours and minutes are counted from the start of this minute, on its first pass. -/
theorem laterBy_eq (z : Zone) (now : LocalTime) (amount : Nat) {unit : Span}
    (hunit : unit ≠ .days) :
    laterBy z now amount unit = (do
      let start ← z.toTimestamp now.startOfMinute.firstPass
      let _ ← z.toLocal (.ofSeconds (start + amount * unit.seconds))
      return start + amount * unit.seconds) := by
  cases unit with
  | days => exact absurd rfl hunit
  | hours =>
      unfold laterBy
      dsimp only
      rw [addDays_zero, Span.seconds, Int.mul_comm]
      rfl
  | minutes =>
      unfold laterBy
      dsimp only
      rw [addDays_zero, Span.seconds, Int.mul_comm]
      rfl

section Seconds

variable {z : Zone} {e : Int} {now : LocalTime} (h : ShowsSteadily z e now) {second : Int}
include h

/-- A time counted from now is counted from the start of this minute. -/
theorem laterBy_of_steady {amount : Nat} {unit : Span}
    (hsecond : laterBy z now amount unit = .ok second) :
    second = 60 * (now.reading / 60) + amount * unit.seconds - z.standard := by
  obtain ⟨base, hbase, hfromBase⟩ := ok_of_bind hsecond
  obtain ⟨start, hstart, hfromStart⟩ := ok_of_bind hfromBase
  obtain ⟨_, _, hvalue⟩ := ok_of_bind hfromStart
  obtain ⟨date, hdate, hsame⟩ := ok_of_bind hbase
  cases hsame
  have hnumber := Date.dayNumber_of_addDays hdate
  have hminute := reading_startOfMinute now
  have hbegin := Zone.toTimestamp_of_steady h.steady rfl hstart
  have hsum := (Except.ok.inj hvalue).symm
  unfold LocalTime.reading at hminute hbegin
  unfold LocalTime.reading
  dsimp only [LocalTime.startOfMinute] at hminute hbegin hnumber
  cases unit <;> dsimp only [Span.seconds] at hnumber hsum ⊢ <;> omega

theorem morningAfter_of_steady {days : Int} (hdays : 1 ≤ days ∧ days ≤ 7)
    (hsecond : morningAfter z now days = .ok second) :
    second = 86400 * (now.date.dayNumber + days) + 32400 - z.standard := by
  obtain ⟨date, hnumber, _, hmorning⟩ := exists_date_of_morningAfter h.year hdays
  rw [hmorning] at hsecond
  rw [Zone.toTimestamp_of_steady h.steady rfl hsecond, ← hnumber]
  rfl

/-- The morning of a day of a month is that of the first year in which it has not gone by. -/
theorem nextMonthDay_of_steady {month day : Nat} (hmonth : 1 ≤ month ∧ month ≤ 12)
    (hday : 1 ≤ day ∧ day ≤ 31) (hsecond : nextMonthDay z now month day = .ok second) :
    let morning := fun year : Int => 86400 * dayInYear year month day + 32400 - z.standard
    second = if morning now.date.year < e then morning (now.date.year + 1)
      else morning now.date.year := by
  intro morning
  obtain ⟨this, next, hthis, hnext, _, _, heq⟩ := exists_dates_of_nextMonthDay h.year hmonth hday
  rw [heq] at hsecond
  obtain ⟨thisSecond, hthisSecond, hsecond⟩ := ok_of_bind hsecond
  obtain ⟨count, hcount, hsecond⟩ := ok_of_bind hsecond
  cases h.count.symm.trans hcount
  have hthisValue : thisSecond = morning now.date.year := by
    rw [Zone.toTimestamp_of_steady h.steady rfl hthisSecond]
    simp only [morning, ← hthis]
    rfl
  simp only [Int.cast_lt, hthisValue] at hsecond
  split_ifs at hsecond ⊢ with hpast
  · rw [Zone.toTimestamp_of_steady h.steady rfl hsecond]
    simp only [morning, ← hnext]
    rfl
  · exact (Except.ok.inj hsecond).symm

/-- A time of day is today's, or that of tomorrow if it has gone by. -/
theorem readTime_of_steady {text rest : Text} {hour minute : Nat}
    (haccept : timeOfDay text = .accept (hour, minute) rest)
    (hsecond : readTime z now text = .ok (some second)) :
    let time := todayAt now hour minute - z.standard
    second = if time < e then time + 86400 else time := by
  intro time
  obtain ⟨timeOfDay, hlocal, hreading⟩ := exists_today h.year.1 (timeOfDay_accept haccept).1
  have htoday : ∃ today, ((Draft.ofLocal now).atTime hour minute 0).toTimestamp z = .ok today := by
    unfold readTime at hsecond
    rw [haccept] at hsecond
    obtain ⟨today, htoday, _⟩ := ok_of_bind hsecond
    exact ⟨today, htoday⟩
  obtain ⟨today, htoday⟩ := htoday
  rw [readTime_eq haccept htoday h.count, Except.ok.injEq, Option.some.injEq] at hsecond
  simp only [Int.cast_lt] at hsecond
  have hvalue : today = time := by
    rw [Draft.toTimestamp, hlocal] at htoday
    rw [Zone.toTimestamp_of_steady h.steady rfl htoday, hreading]
  rw [← hsecond, hvalue]

end Seconds

section Rules

variable {z : Zone} {e e' : Int} {now later : LocalTime} {second second' : Int}

theorem Offset.Follows.second_le {offset offset' : Offset} (h : ShowsSteadily z e now)
    (h' : ShowsSteadily z e' later) (he : e ≤ e')
    (hfollows : offset.Follows now.date later.date offset')
    (hsecond : offset.second z now = .ok second) (hsecond' : offset'.second z later = .ok second') :
    second ≤ second' := by
  cases hfollows with
  | morning hnear hnear' hle =>
      rw [morningAfter_of_steady h hnear hsecond, morningAfter_of_steady h' hnear' hsecond']
      omega
  | later amount unit =>
      have hreading := h.reading_eq
      have hreading' := h'.reading_eq
      rw [laterBy_of_steady h hsecond, laterBy_of_steady h' hsecond']
      omega

theorem readRelative_accept {text : Text} (h : readRelative z now text = .ok (some second)) :
    ∃ offset rest, relative now.date text = .accept offset rest ∧
      offset.second z now = .ok second := by
  unfold readRelative at h
  split at h
  · next days rest hread =>
      refine ⟨_, rest, hread, ?_⟩
      obtain ⟨found, hfound, hvalue⟩ := ok_of_bind h
      cases hvalue
      exact hfound
  · next amount unit rest hread =>
      refine ⟨_, rest, hread, ?_⟩
      cases hlater : laterBy z now amount unit with
      | error cause =>
          rw [hlater] at h
          cases h
      | ok found =>
          rw [hlater] at h
          cases h
          exact hlater
  · cases h
  · cases h

theorem advances_readRelative : Advances readRelative := by
  intro z e e' now later text second second' h h' he hsecond hsecond'
  obtain ⟨offset, _, hread, hvalue⟩ := readRelative_accept hsecond
  obtain ⟨offset', _, hread', hvalue'⟩ := readRelative_accept hsecond'
  exact (follows_relative (h.day_le h' he) hread hread').second_le h h' he hvalue hvalue'

/-- A day of a month comes round again only after it has gone by. -/
theorem nextMonthDay_le {month day : Nat} (hmonth : 1 ≤ month ∧ month ≤ 12)
    (hday : 1 ≤ day ∧ day ≤ 31) (h : ShowsSteadily z e now) (h' : ShowsSteadily z e' later)
    (he : e ≤ e') (hsecond : nextMonthDay z now month day = .ok second)
    (hsecond' : nextMonthDay z later month day = .ok second') : second ≤ second' := by
  rw [nextMonthDay_of_steady h hmonth hday hsecond, nextMonthDay_of_steady h' hmonth hday hsecond']
  have hnext := dayInYear_succ now.date.year hmonth day
  have hnext' := dayInYear_succ later.date.year hmonth day
  have hyear := Date.year_mono (h.day_le h' he)
  dsimp only
  rcases hyear.eq_or_lt with hsame | hlater
  · rw [← hsame]
    split_ifs <;> omega
  · have hmono : dayInYear (now.date.year + 1) month day ≤ dayInYear later.date.year month day :=
      dayInYear_mono (by omega) hmonth day
    split_ifs <;> omega

/-- A day that is not counted from now is a day of a month or, failing that, of the week. -/
theorem readAbsolute_accept {text : Text} (h : readAbsolute z now text = .ok (some second)) :
    (∃ month day rest, monthDay text = .accept (month, day) rest ∧
      nextMonthDay z now month day = .ok second) ∨
    monthDay text = .reject ∧ ∃ day rest, weekday (Text.trimStart text) = .accept day rest ∧
      morningAfter z now (now.date.daysUntil day) = .ok second := by
  unfold readAbsolute at h
  split at h
  · next month day rest hday =>
      obtain ⟨found, hfound, hvalue⟩ := ok_of_bind h
      cases hvalue
      exact Or.inl ⟨month, day, rest, hday, hfound⟩
  · cases h
  · next hreject =>
      split at h
      · next day rest hweekday =>
          obtain ⟨found, hfound, hvalue⟩ := ok_of_bind h
          cases hvalue
          exact Or.inr ⟨hreject, day, rest, hweekday, hfound⟩
      · cases h

theorem advances_readAbsolute : Advances readAbsolute := by
  intro z e e' now later text second second' h h' he hsecond hsecond'
  have hday := h.day_le h' he
  rcases readAbsolute_accept hsecond with
    ⟨month, day, _, hread, hvalue⟩ | ⟨hreject, weekday, _, hread, hvalue⟩ <;>
  rcases readAbsolute_accept hsecond' with
    ⟨month', day', _, hread', hvalue'⟩ | ⟨hreject', weekday', _, hread', hvalue'⟩
  · cases hread.symm.trans hread'
    obtain ⟨hmonth, hrange⟩ := monthDay_accept hread
    exact nextMonthDay_le hmonth hrange h h' he hvalue hvalue'
  · cases hread.symm.trans hreject'
  · cases hreject.symm.trans hread'
  · cases hread.symm.trans hread'
    exact (Offset.follows_daysUntil hday (nameIn_accept hread)).second_le h h' he hvalue hvalue'

theorem advances_readTime : Advances readTime := by
  intro z e e' now later text second second' h h' he hsecond hsecond'
  obtain ⟨hour, minute, _, hread⟩ := readTime_accept hsecond
  have hday := h.day_le h' he
  rw [readTime_of_steady h hread hsecond, readTime_of_steady h' hread hsecond']
  unfold todayAt
  split_ifs <;> omega

theorem advances_of_mem {rule : Rule} (h : rule ∈ rules) : Advances rule := by
  simp only [rules, List.mem_cons, List.not_mem_nil, or_false] at h
  rcases h with rfl | rfl | rfl
  · exact advances_readRelative
  · exact advances_readAbsolute
  · exact advances_readTime

theorem advances_firstRule : Advances (firstRule rules) := by
  intro z e e' now later text second second' h h' he hsecond hsecond'
  obtain ⟨rule, hmem, hminded, heq⟩ := exists_rule_of_firstRule (by rw [hsecond]; exact nofun)
  obtain ⟨rule', hmem', hminded', heq'⟩ := exists_rule_of_firstRule (by rw [hsecond']; exact nofun)
  -- one rule names both seconds, because a text is minded by only one
  obtain rfl := eq_of_minded hmem hmem' hminded hminded'
  exact advances_of_mem hmem h h' he (heq ▸ hsecond) (heq' ▸ hsecond')

end Rules

/-- On a clock that is never changed phrases never go back: from a later anchor a text, read as a
phrase or as a time of day, names no earlier second. -/
theorem resolve_mono {clock : WallClock} (hsteady : clock.zone.summer? = none) {e e' : Int}
    (he : e ≤ e') {now later : LocalTime} (hnow : clock.zone.toLocal (.ofSeconds e) = .ok now)
    (hlater : clock.zone.toLocal (.ofSeconds e') = .ok later)
    (hyear : 2 ≤ now.date.year ∧ now.date.year ≤ 9998)
    (hyear' : 2 ≤ later.date.year ∧ later.date.year ≤ 9998) (text : Option Text)
    (second second' : Int) :
    (resolve clock (.counted (.ofInt e)) text = .ok (some second) →
      resolve clock (.counted (.ofInt e')) text = .ok (some second') → second ≤ second') ∧
    (resolveTime clock (.counted (.ofInt e)) text = .ok (some second) →
      resolveTime clock (.counted (.ofInt e')) text = .ok (some second') → second ≤ second') := by
  have h := showsSteadily_toLocal hsteady hnow hyear
  have h' := showsSteadily_toLocal hsteady hlater hyear'
  unfold resolve resolveTime
  rw [WallClock.resolve_counted hnow, WallClock.resolve_counted hlater]
  cases usable? text with
  | none => exact ⟨nofun, nofun⟩
  | some usable => exact ⟨advances_firstRule h h' he, advances_readTime h h' he⟩

/-- Over midnight to a Friday, "Friday" moves on by a week. -/
theorem resolve_mono_over_midnight :
    let clock : WallClock := ⟨.behind0330, .ofInt 0⟩
    resolve clock (.counted (.ofInt 1792121399)) (some "friday".toList) = .ok (some 1792153800) ∧
      resolve clock (.counted (.ofInt 1792121400)) (some "friday".toList) = .ok (some 1792758600) ∧
      (1792153800 : Int) ≤ 1792758600 := by
  intro clock
  have hnow : clock.zone.toLocal (.ofSeconds 1792121399) =
      .ok (.on ⟨2026, 10, 15, by decide⟩ .lastSecond) := by decide +kernel
  have hlater : clock.zone.toLocal (.ofSeconds 1792121400) =
      .ok (.on ⟨2026, 10, 16, by decide⟩ .midnight) := by decide +kernel
  have hfirst : resolve clock (.counted (.ofInt 1792121399)) (some "friday".toList) =
      .ok (some 1792153800) := by decide +kernel
  have hnext : resolve clock (.counted (.ofInt 1792121400)) (some "friday".toList) =
      .ok (some 1792758600) := by decide +kernel
  exact ⟨hfirst, hnext, (resolve_mono rfl (by decide) hnow hlater (by decide) (by decide) _ _ _).1
    hfirst hnext⟩

end Agenda.Phrase
