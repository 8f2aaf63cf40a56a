import Agenda.Proofs.Clock.Turn
import Agenda.Proofs.Phrase.Monotone
import Mathlib

/-!
Hours and minutes counted from now. Their phrase is read whatever the amount is, up to the digits
that a numeral may have, and it names the second that lies so far from the start of this minute, if
the calendar goes on until then. The start of the minute is looked up on its first pass: on the
second pass of an hour that the clock shows twice the count starts an hour too early.
-/

namespace Agenda.Clock.Zone

open Calendar

variable {z : Zone} {u : Int}

/-- The second from which hours and minutes are counted: the start of the minute or, where the clock
has shown it an hour before, an hour earlier. -/
def countStart (z : Zone) (e : Int) : Int :=
  if z.wall (e - 3600) = z.wall e then e - e % 60 - 3600 else e - e % 60

/-- The second, if the local clock shows a date of the calendar at it. -/
def shown? (z : Zone) (u : Int) : Option Int :=
  if 1 ≤ yearOf (z.wall u) ∧ yearOf (z.wall u) ≤ maxYear then some u else none

/-- From the start of the calendar on, a second is shown unless it comes after the end. -/
theorem shown?_eq (hstart : -62135596800 ≤ z.wall u) :
    z.shown? u = if z.wall u < 253402300800 then some u else none := by
  obtain ⟨hbegin, hend⟩ := (yearOf_eq_iff (z.wall u) _).mp rfl
  have hone : yearStart 1 = -719162 := rfl
  have hlast : yearStart 10000 = 2932897 := rfl
  have hfirst : 1 ≤ yearOf (z.wall u) := le_of_yearStart_le hend (by omega)
  have hyear : yearOf (z.wall u) ≤ maxYear ↔ z.wall u < 253402300800 := by
    unfold maxYear
    constructor
    · intro hle
      have hmono := yearStart_mono (a := yearOf (z.wall u) + 1) (b := 10000) (by omega)
      omega
    · intro hlt
      have hbefore : yearOf (z.wall u) < 10000 := lt_of_lt_yearStart hbegin (by omega)
      omega
  simp only [shown?, hfirst, hyear, true_and]

/-- Two seconds an hour apart are shown alike only if neither is shown. -/
theorem shown?_hour_before_iff (hstart : -62135596800 ≤ z.wall (u - 3600)) :
    z.shown? (u - 3600) = z.shown? u ↔ z.shown? (u - 3600) = none := by
  have hoffset := z.offset_cases u
  have hoffset' := z.offset_cases (u - 3600)
  have hmono : z.wall (u - 3600) ≤ z.wall u := by
    unfold wall
    omega
  rw [shown?_eq hstart, shown?_eq (hstart.trans hmono)]
  split_ifs with hearlier hlater hlater
  · simp
  · simp
  · exact absurd (hmono.trans_lt hlater) hearlier
  · simp

/-- The local time of a second can be told where the second is shown, more than a day after the start
of the calendar. -/
theorem toOption_toLocal (hstart : -62135596800 + 90000 ≤ z.wall u) :
    (do let _ ← z.toLocal (.ofSeconds u); return u : Except Fault Int).toOption = z.shown? u := by
  rw [shown?_eq (by omega)]
  split_ifs with hend
  · obtain ⟨t, ht⟩ := exists_toLocal (by omega) hend
    rw [ht]
    rfl
  · cases ht : z.toLocal (.ofSeconds u) with
    | error fault => rfl
    | ok t =>
        have hday := dayNumber_toLocal ht
        have hcalendar := t.date.inCalendar_dayNumber
        rw [hday, ← inSpan_iff] at hcalendar
        exact absurd hcalendar.2 hend

end Agenda.Clock.Zone

namespace Agenda.Phrase

open Calendar Clock Scanner Text

section Reading

/-- A word for a unit of time is a run of small letters. -/
private theorem word_of_ofWord? {word : Text} {unit : Span} (h : Span.ofWord? word = some unit) :
    trimStart (' ' :: word) = word ∧ Scanner.word word = .accept word [] := by
  have hread : ∀ names : List Text, names.contains word = true →
      (∀ w ∈ names, trimStart (' ' :: w) = w ∧ lower (w.takeWhile isLetter) = w ∧
        w.dropWhile isLetter = []) →
      trimStart (' ' :: word) = word ∧ Scanner.word word = .accept word [] := by
    intro names hmem hall
    obtain ⟨hskip, hword, hrest⟩ := hall word (List.contains_iff_mem.mp hmem)
    refine ⟨hskip, ?_⟩
    rw [word_text, hword, hrest]
  unfold Span.ofWord? at h
  split_ifs at h with hdays hhours hminutes
  · exact hread _ hdays (by decide)
  · exact hread _ hhours (by decide)
  · exact hread _ hminutes (by decide)

variable {digits word : Text} {unit : Span} (hsome : digits ≠ [])
  (hdigits : ∀ c ∈ digits, isPlainDigit c = true) (hunit : Span.ofWord? word = some unit)
include hsome hdigits hunit

/-- An amount is read with its unit, if it has not too many digits. -/
theorem amountAhead_run :
    amountAhead (' ' :: (digits ++ ' ' :: word)) =
      if digits.length ≤ maxDigits then .accept (.later (numberOfPlain digits) unit) []
      else .fault (.numeralTooLong digits.length) (' ' :: word) := by
  obtain ⟨hskip, hword⟩ := word_of_ofWord? hunit
  have hstart : trimStart (' ' :: (digits ++ ' ' :: word)) = digits ++ ' ' :: word := by
    cases digits with
    | nil => exact absurd rfl hsome
    | cons c more =>
        have hc := not_isBlank_of_isPlainDigit (hdigits c List.mem_cons_self)
        change trimStart (c :: (more ++ ' ' :: word)) = _
        exact List.dropWhile_cons_of_neg (by simp [hc])
  have hblank : ∀ c ∈ (' ' :: word).head?, isPlainDigit c = false := by
    rintro c ⟨⟩
    rfl
  have hnumeral := numeral_run ⟨hsome, hdigits⟩ hblank
  unfold amountAhead
  rw [bind_of_accept (blanks_text _), hstart]
  rw [Scanner.numberOf, if_neg hsome] at hnumeral
  split_ifs with hlength
  · rw [if_neg (by omega)] at hnumeral
    rw [bind_of_accept hnumeral, bind_of_accept (blanks_text _), hskip, bind_of_accept hword, hunit]
    rfl
  · rw [if_pos (by omega)] at hnumeral
    exact bind_of_fault hnumeral

end Reading

section Counting

variable {z : Zone} {e : Int} {now : LocalTime} (hnow : z.toLocal (.ofSeconds e) = .ok now)
  (hyear : 2 ≤ now.date.year ∧ now.date.year ≤ 9998)
include hnow hyear

/-- The start of this minute is looked up on its first pass. -/
theorem toTimestamp_startOfMinute :
    z.toTimestamp now.startOfMinute.firstPass = .ok (z.countStart e) := by
  obtain ⟨_, hreading, _⟩ := Zone.ofReading_spec (Zone.toLocal_spec hnow).1
  have hminute := z.offset_startOfMinute e
  have hearlier := z.offset_startOfMinute (e - 3600)
  rw [show e - 3600 - (e - 3600) % 60 = e - e % 60 - 3600 by omega] at hearlier
  have hstart : now.startOfMinute.reading = z.wall (e - e % 60) := by
    have hstandard := z.standard_mod
    have hoffset := z.offset_cases e
    rw [reading_startOfMinute, hreading]
    unfold Zone.wall
    omega
  have hrepeated : z.wall (e - e % 60 - 3600) = z.wall (e - e % 60) ↔
      z.wall (e - 3600) = z.wall e := by
    unfold Zone.wall
    omega
  have hinner : Zone.IsInner now.startOfMinute.reading false :=
    Zone.isInner_reading (t := now.startOfMinute) hyear false
  apply Zone.toTimestamp_eq rfl
  change z.secondOf now.startOfMinute.reading false = _
  rw [hstart] at hinner ⊢
  rw [Zone.secondOf_wall hinner]
  simp only [hrepeated, Zone.countStart]

/-- No count of hours or minutes leads back to the start of the calendar. -/
private theorem wall_ahead {ahead : Int} (hahead : 0 ≤ ahead) :
    -62135596800 + 90000 ≤ z.wall (z.countStart e + ahead) := by
  have hstart : e - 3660 ≤ z.countStart e := by
    unfold Zone.countStart
    split_ifs <;> omega
  have hday := Zone.dayNumber_toLocal hnow
  have hbegin := Date.le_dayNumber hyear.1
  have hoffset := z.offset_cases e
  have hoffset' := z.offset_cases (z.countStart e + ahead)
  unfold Zone.wall at hday ⊢
  omega

/-- The second so many hours or minutes ahead is named where it is shown. -/
theorem toOption_laterBy (amount : Nat) {unit : Span} (hne : unit ≠ .days) :
    (laterBy z now amount unit).toOption =
      z.shown? (z.countStart e + amount * unit.seconds) := by
  rw [laterBy_eq z now amount hne, toTimestamp_startOfMinute hnow hyear]
  apply Zone.toOption_toLocal
  apply wall_ahead hnow hyear
  exact Int.mul_nonneg (Int.natCast_nonneg amount) unit.seconds_nonneg

variable {digits word : Text} {unit : Span} (hsome : digits ≠ [])
  (hdigits : ∀ c ∈ digits, isPlainDigit c = true) (hunit : Span.ofWord? word = some unit)
  (hne : unit ≠ .days)
include hsome hdigits hunit hne

/-- The phrase names the second where it is shown, and fails if the amount has too many digits. -/
theorem firstRule_ahead :
    firstRule rules z now ("in ".toList ++ (digits ++ ' ' :: word)) =
      if digits.length ≤ maxDigits then
        .ok (z.shown? (z.countStart e + numberOfPlain digits * unit.seconds))
      else .error (.numeralTooLong digits.length) := by
  have hbegins : BeginsWith "in".toList ("in ".toList ++ (digits ++ ' ' :: word)) := ⟨_, rfl⟩
  have hin : "in".toList ∈ relativeWords := by simp [relativeWords]
  rw [firstRule_of_relative hin hbegins]
  unfold readRelative
  rw [relative_in, amountAhead_run hsome hdigits hunit]
  by_cases hlength : digits.length ≤ maxDigits
  · rw [if_pos hlength, if_pos hlength]
    exact congrArg Except.ok (toOption_laterBy hnow hyear _ hne)
  · rw [if_neg hlength, if_neg hlength]
    rfl

end Counting

/-- Hours and minutes are counted from now. From any second whose local date lies in the years 2 to
9998, "in" an amount of hours or minutes names the second that lies so far from the start of this
minute, or nothing if the calendar does not go on until then. This is so exactly if the amount has no
more digits than a numeral may have and, on the second pass of an hour that the clock shows twice,
the calendar does not even go on until an hour before that second: there the count starts an hour too
early. With more digits the phrase fails, and only then. -/
theorem resolve_ahead_iff {clock : WallClock} {e : Int} {now : LocalTime}
    (hnow : clock.zone.toLocal (.ofSeconds e) = .ok now)
    (hyear : 2 ≤ now.date.year ∧ now.date.year ≤ 9998) {digits word : Text} {unit : Span}
    (hdigits : digits ≠ [] ∧ ∀ c ∈ digits, isPlainDigit c = true)
    (hunit : Span.ofWord? word = some unit ∧ unit ≠ .days) :
    (resolve clock (.counted (.ofInt e)) (some ("in ".toList ++ (digits ++ ' ' :: word))) =
        .ok (clock.zone.shown? (e - e % 60 + numberOfPlain digits * unit.seconds)) ↔
      digits.length ≤ maxDigits ∧
        (clock.zone.wall (e - 3600) = clock.zone.wall e →
          clock.zone.shown? (e - e % 60 + numberOfPlain digits * unit.seconds - 3600) = none)) ∧
    ((∃ cause, resolve clock (.counted (.ofInt e))
        (some ("in ".toList ++ (digits ++ ' ' :: word))) = .error cause) ↔
      maxDigits < digits.length) := by
  have hahead : 0 ≤ numberOfPlain digits * unit.seconds :=
    Int.mul_nonneg (Int.natCast_nonneg _) unit.seconds_nonneg
  have hstart := wall_ahead hnow hyear hahead
  rw [resolve_eq_firstRule (WallClock.resolve_counted hnow),
    firstRule_ahead hnow hyear hdigits.1 hdigits.2 hunit.1 hunit.2]
  by_cases hlength : digits.length ≤ maxDigits
  · rw [if_pos hlength, and_iff_right hlength, Except.ok.injEq]
    refine ⟨?_, iff_of_false ?_ (not_lt.mpr hlength)⟩
    · by_cases hrepeated : clock.zone.wall (e - 3600) = clock.zone.wall e
      · have hearlier : clock.zone.countStart e + numberOfPlain digits * unit.seconds =
            e - e % 60 + numberOfPlain digits * unit.seconds - 3600 := by
          rw [Zone.countStart, if_pos hrepeated]
          omega
        rw [hearlier] at hstart ⊢
        rw [forall_prop_of_true hrepeated]
        apply Zone.shown?_hour_before_iff
        omega
      · rw [Zone.countStart, if_neg hrepeated]
        exact iff_of_true rfl fun h => absurd h hrepeated
    · rintro ⟨cause, hfails⟩
      cases hfails
  · rw [if_neg hlength]
    exact ⟨iff_of_false nofun fun h => hlength h.1, iff_of_true ⟨_, rfl⟩ (not_le.mp hlength)⟩

/-- On the first pass of the repeated hour, an hour and a half ahead is on the second pass. -/
theorem resolve_ahead_into_repeated :
    let clock : WallClock := ⟨.eastAmerica, .ofInt 0⟩
    resolve clock (.counted (.ofInt 1793511045)) (some "in 90 minutes".toList) =
      .ok (some 1793516400) := by
  intro clock
  have hnow : clock.zone.toLocal (.ofSeconds 1793511045) =
      .ok (.on ⟨2026, 11, 1, by decide⟩ ⟨1, 30, 45, by decide⟩) := by decide +kernel
  have hunit : Span.ofWord? "minutes".toList = some .minutes ∧ Span.minutes ≠ .days := by decide
  have hdigits : "90".toList ≠ [] ∧ ∀ c ∈ "90".toList, isPlainDigit c = true :=
    ⟨by decide, List.all_eq_true.mp rfl⟩
  have hshown : clock.zone.shown? (1793511045 - 1793511045 % 60 +
      numberOfPlain "90".toList * Span.minutes.seconds) = some 1793516400 := by decide +kernel
  have hfirst : clock.zone.wall (1793511045 - 3600) ≠ clock.zone.wall 1793511045 := by
    decide +kernel
  have hlength : "90".toList.length ≤ maxDigits := by decide
  rw [← hshown]
  exact (resolve_ahead_iff hnow (by decide) hdigits hunit).1.mpr
    ⟨hlength, fun hrepeated => (hfirst hrepeated).elim⟩

/-- At half past one for the second time, an hour ahead is now, although the clock shows the second
that lies an hour ahead as well. -/
theorem resolve_ahead_differs :
    let clock : WallClock := ⟨.eastAmerica, .ofInt 0⟩
    clock.zone.toLocal (.ofSeconds 1793514600) =
        .ok ⟨⟨2026, 11, 1, by decide⟩, ⟨1, 30, 0, by decide⟩, 0, true, by decide⟩ ∧
      resolve clock (.counted (.ofInt 1793514600)) (some "in 1 hour".toList) =
        .ok (some 1793514600) ∧
      clock.zone.shown? (1793514600 - 1793514600 % 60 + 1 * 3600) = some 1793518200 := by
  decide +kernel

end Agenda.Phrase
