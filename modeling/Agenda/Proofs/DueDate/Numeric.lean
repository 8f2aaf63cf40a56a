import Agenda.Proofs.DueDate.Explicit
import Agenda.Proofs.Phrase.Repeated
import Agenda.Proofs.Phrase.Terminator
import Agenda.Proofs.Phrase.TimeSyntax
import Mathlib

/-!
Numbers between slashes that name no date. In no order are they an explicit date, and as a phrase
they go no further than the first slash: the number in front of it is the hour of a time of day. So
they are refused only if there is no such hour.
-/

namespace Agenda.Phrase

open Clock Scanner Text

theorem hourOfDay_le_iff {number : Nat} : hourOfDay number none ≤ 23 ↔ number ≤ 23 := by
  unfold hourOfDay
  dsimp only
  split_ifs <;> omega

/-- A number alone is an hour without a half of the day, if there is such an hour. -/
theorem timeOfDay_numeral {digits : Text} (hdigits : IsNumeral digits)
    (hlength : digits.length ≤ maxDigits) :
    timeOfDay digits =
      if numberOfPlain digits ≤ 23 then .accept (hourOfDay (numberOfPlain digits) none, 0) []
      else .reject := by
  have hstay : trimStart digits = digits := by
    apply trimStart_of_head
    rintro c more rfl
    exact not_isBlank_of_isPlainDigit (hdigits.isPlainDigit c List.mem_cons_self)
  have hnumeral : numeral digits = .accept (numberOfPlain digits) [] := by
    have hrun : numeral (digits ++ []) = Scanner.numberOf digits [] := numeral_run hdigits nofun
    rwa [List.append_nil, Scanner.numberOf, if_neg hdigits.ne_nil, if_neg (by omega)] at hrun
  unfold timeOfDay
  rw [bind_of_accept (blanks_text digits), hstay, bind_of_accept hnumeral]
  -- with nothing behind the hour, no minute and no half of the day is read
  change (Scanner.guard (decide (hourOfDay (numberOfPlain digits) none ≤ 23) && true) >>= fun _ =>
    (Pure.pure (hourOfDay (numberOfPlain digits) none, 0) : Scanner Text (Nat × Nat))) [] = _
  rw [Bool.and_true]
  split_ifs with hhour
  · rw [decide_eq_true (hourOfDay_le_iff.mpr hhour), bind_of_accept (guard_true [])]
    rfl
  · rw [decide_eq_false fun h => hhour (hourOfDay_le_iff.mp h), bind_of_reject (guard_false [])]

/-- No phrase goes on with a slash. -/
theorem isTail_slash (rest : Text) : IsTail ('/' :: rest) :=
  ⟨'/', rest, rfl, by decide, by decide, by decide, by decide⟩

section Hour

variable {z : Zone} {now : LocalTime} (hyear : 2 ≤ now.date.year ∧ now.date.year ≤ 9998)
  {digits : Text} (hdigits : IsNumeral digits) (hlength : digits.length ≤ maxDigits)
include hdigits hlength

/-- A number for which there is no hour is no time of day. -/
theorem readTime_of_no_hour (hhour : 23 < numberOfPlain digits) :
    readTime z now digits = .ok none := by
  unfold readTime
  rw [timeOfDay_numeral hdigits hlength, if_neg (by omega)]
  rfl

include hyear

/-- A number alone names the next coming of an hour: the hour of today, or, if that is past, the
second 24 hours after it. -/
theorem exists_readTime_of_hour (hhour : numberOfPlain digits ≤ 23) :
    ∃ (time : Calendar.TimeOfDay) (second : Int) (count : Rat),
      MeansHour (numberOfPlain digits) none time.hour ∧ time.minute = 0 ∧ time.second = 0 ∧
        z.toTimestamp (.on now.date time) = .ok second ∧ z.toCount now = .ok count ∧
        readTime z now digits =
          .ok (some (if (second : Rat) < count then second + 86400 else second)) := by
  have hread := timeOfDay_numeral hdigits hlength
  rw [if_pos hhour] at hread
  have htime : hourOfDay (numberOfPlain digits) none ≤ 23 ∧ 0 ≤ 59 :=
    ⟨hourOfDay_le_iff.mpr hhour, Nat.zero_le 59⟩
  obtain ⟨time, hlocal, hseconds⟩ := Draft.exists_toLocal_atTime hyear.1 htime
  obtain ⟨second, hsecond, _⟩ := exists_secondOf_today (z := z) hyear htime
  obtain ⟨count, hcount⟩ := Zone.exists_toCount (z := z) (Zone.isInner_reading hyear now.again)
  have hfields := time.inDay
  unfold Calendar.TimeOfDay.seconds at hseconds
  refine ⟨time, second, count, meansHour_iff.mpr (by omega), by omega, by omega, ?_, hcount,
    readTime_eq hread hsecond hcount⟩
  rwa [Draft.toTimestamp, hlocal] at hsecond

end Hour

end Agenda.Phrase

namespace Agenda.DueDate

open Calendar Clock Phrase Text

section Refused

variable {clock : WallClock} {anchor : Anchor} {now : LocalTime}
  (hnow : clock.resolve anchor = .ok now) {a b y : Text} (ha : IsNumeral a) (hb : IsNumeral b)
  (hy : IsNumeral y) (hmonthFirst : numericDate? a b y = none)
  (hdayFirst : numericDate? b a y = none)
include hnow ha hb hy hmonthFirst hdayFirst

/-- Numbers between slashes that are no date mean what the first of them means. -/
theorem resolve_slashes :
    resolve clock anchor (some (a ++ '/' :: (b ++ '/' :: y))) =
      Phrase.resolveTime clock anchor (some a) := by
  have hstamp : stamp? (a ++ '/' :: (b ++ '/' :: y)) = none := by
    rw [stamp?_slashes ha hb hy, hmonthFirst, hdayFirst]
    rfl
  rw [resolve_eq, trim_slashes ha hy, hstamp]
  dsimp only
  rw [Phrase.resolve_eq_firstRule hnow, firstRule_of_numeral ha, readTime_append (isTail_slash _),
    Phrase.resolveTime_eq_readTime hnow]

/-- Numbers between slashes that are no date, neither with the month in front nor with the day, are
an hour and a tail that has no part in what they mean. They are refused exactly if the first number
is greater than 23. Else they name the next coming of its hour, in the second half of the day if it
is less than twelve. -/
theorem resolve_numeric (hyear : 2 ≤ now.date.year ∧ now.date.year ≤ 9998)
    (hlength : a.length ≤ maxDigits) :
    (resolve clock anchor (some (a ++ '/' :: (b ++ '/' :: y))) =
        Phrase.resolveTime clock anchor (some a)) ∧
      (resolve clock anchor (some (a ++ '/' :: (b ++ '/' :: y))) = .ok none ↔
        23 < numberOfPlain a) ∧
      (numberOfPlain a ≤ 23 → ∃ (time : TimeOfDay) (second : Int) (count : Rat),
        MeansHour (numberOfPlain a) none time.hour ∧ time.minute = 0 ∧ time.second = 0 ∧
        clock.zone.toTimestamp (.on now.date time) = .ok second ∧
        clock.zone.toCount now = .ok count ∧
        resolve clock anchor (some (a ++ '/' :: (b ++ '/' :: y))) =
          .ok (some (if (second : Rat) < count then second + 86400 else second))) := by
  have hfirst := resolve_slashes hnow ha hb hy hmonthFirst hdayFirst
  have hhour := exists_readTime_of_hour (z := clock.zone) hyear ha hlength
  rw [hfirst, Phrase.resolveTime_eq_readTime hnow]
  refine ⟨rfl, ⟨fun hnone => ?_, readTime_of_no_hour ha hlength⟩, hhour⟩
  by_contra hle
  obtain ⟨_, _, _, _, _, _, _, _, hread⟩ := hhour (Nat.le_of_not_lt hle)
  cases hread.symm.trans hnone

end Refused

/-- The last day of April and one more are refused, since no day has an hour of that number. -/
theorem resolve_numeric_april :
    resolve ⟨.utc, .ofInt 0⟩ (.counted (.ofInt 1792405800)) (some "31/04/2026".toList) =
      .ok none := by
  have hnow : (⟨.utc, .ofInt 0⟩ : WallClock).resolve (.counted (.ofInt 1792405800)) =
      .ok (.on ⟨2026, 10, 19, by decide⟩ ⟨10, 30, 0, by decide⟩) := by decide +kernel
  have hday : IsNumeral "31".toList := ⟨by simp, by simp [isPlainDigit]⟩
  have hmonth : IsNumeral "04".toList := ⟨by simp, by simp [isPlainDigit]⟩
  have hyear : IsNumeral "2026".toList := ⟨by simp, by simp [isPlainDigit]⟩
  have hmeans := resolve_numeric hnow hday hmonth hyear rfl rfl (by decide) (by decide)
  exact hmeans.2.1.mpr (by decide)

/-- A thirteenth day of a thirteenth month is read as one o'clock in the afternoon. -/
theorem resolve_numeric_thirteenth :
    let clock : WallClock := ⟨.utc, .ofInt 0⟩
    numericDate? "13".toList "13".toList "2026".toList = none ∧
      clock.resolve (.counted (.ofInt 1792405800)) =
        .ok (.on ⟨2026, 10, 19, by decide⟩ ⟨10, 30, 0, by decide⟩) ∧
      resolve clock (.counted (.ofInt 1792405800)) (some "13/13/2026".toList) =
        .ok (some 1792414800) := by
  decide +kernel

end Agenda.DueDate
