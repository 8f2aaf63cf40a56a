import Agenda.Phrase.Resolve
import Agenda.Proofs.Phrase.Morning
import Agenda.Proofs.Phrase.Scanner
import Mathlib

/-!
Phrases fail only by naming nothing. From any day that is a year away from the ends of the calendar
each rule answers with nothing or with a second that the local clock shows.
-/

namespace Agenda.Phrase

open Calendar Clock

/-- The outcome is an answer, and a second in it is one that the local clock shows. -/
def Answers (z : Zone) (outcome : Except Fault (Option Int)) : Prop :=
  ∃ found, outcome = .ok found ∧ ∀ second ∈ found, ∃ t, z.toLocal (.ofSeconds second) = .ok t

theorem Answers.none {z : Zone} : Answers z (.ok none) := ⟨_, rfl, by simp⟩

theorem Answers.some {z : Zone} {second : Int} {t : LocalTime}
    (h : z.toLocal (.ofSeconds second) = .ok t) : Answers z (.ok (some second)) := by
  refine ⟨_, rfl, ?_⟩
  intro found hfound
  obtain rfl := Option.some.inj hfound
  exact ⟨t, h⟩

section Rules

variable {now : LocalTime}

/-- The count of seconds of now, which times that have gone by are told from. -/
private theorem exists_count (z : Zone) (hyear : 2 ≤ now.date.year ∧ now.date.year ≤ 9998) :
    ∃ count, z.toCount now = .ok count :=
  Zone.exists_toCount (Zone.isInner_reading hyear _)

private theorem exists_morningAfter (z : Zone) (hyear : 2 ≤ now.date.year ∧ now.date.year ≤ 9998)
    {days : Int} (hdays : 1 ≤ days ∧ days ≤ 7) :
    ∃ second, morningAfter z now days = .ok second ∧
      ∃ t, z.toLocal (.ofSeconds second) = .ok t := by
  obtain ⟨date, _, hlater, hmorning⟩ := exists_date_of_morningAfter hyear hdays
  obtain ⟨second, t, hsecond, ht, _⟩ := Zone.exists_toLocal_morning z hlater
  exact ⟨second, (hmorning z).trans hsecond, t, ht⟩

private theorem exists_nextMonthDay (z : Zone) (hyear : 2 ≤ now.date.year ∧ now.date.year ≤ 9998)
    {month day : Nat} (hmonth : 1 ≤ month ∧ month ≤ 12) (hday : 1 ≤ day ∧ day ≤ 31) :
    ∃ second, nextMonthDay z now month day = .ok second ∧
      ∃ t, z.toLocal (.ofSeconds second) = .ok t := by
  obtain ⟨this, next, _, _, hthisYear, hnextYear, heq⟩ :=
    exists_dates_of_nextMonthDay hyear hmonth hday
  obtain ⟨second, t, hsecond, ht, _⟩ := Zone.exists_toLocal_morning z hthisYear
  obtain ⟨later, t', hlater, ht', _⟩ := Zone.exists_toLocal_morning z hnextYear
  obtain ⟨count, hcount⟩ := exists_count z hyear
  rw [heq, hsecond]
  simp only [bind, Except.bind, hcount]
  split
  · exact ⟨later, hlater, t', ht'⟩
  · exact ⟨second, rfl, t, ht⟩

/-- The clock shows every time of today, and the time 24 hours after it. -/
private theorem exists_timeToday (z : Zone) (hyear : 2 ≤ now.date.year ∧ now.date.year ≤ 9998)
    {hour minute : Nat} (htime : hour ≤ 23 ∧ minute ≤ 59) :
    ∃ second, ((Draft.ofLocal now).atTime hour minute 0).toTimestamp z = .ok second ∧
      (∃ t, z.toLocal (.ofSeconds second) = .ok t) ∧
      ∃ t, z.toLocal (.ofSeconds (second + 86400)) = .ok t := by
  obtain ⟨time, hlocal, _⟩ := Draft.exists_toLocal_atTime hyear.1 htime
  have hinner : Zone.IsInner (LocalTime.on now.date time).reading false :=
    Zone.isInner_reading (t := .on now.date time) hyear false
  obtain ⟨second, hsecond, hcases, _⟩ := Zone.secondOf_spec (z := z) hinner
  have hreading := (LocalTime.on now.date time).reading_bounds
  have hbefore := Date.inCalendar_add hyear (-365) (by omega)
  have hafter := Date.inCalendar_add hyear 365 (by omega)
  have hoffset := z.offset_cases second
  have hoffset' := z.offset_cases (second + 86400)
  rw [inCalendar_iff] at hbefore hafter
  change 86400 * now.date.dayNumber ≤ _ ∧ _ < 86400 * now.date.dayNumber + 86400 at hreading
  refine ⟨second, ?_, ?_, ?_⟩
  · rw [Draft.toTimestamp, hlocal]
    exact Zone.toTimestamp_eq rfl hsecond
  · exact Zone.exists_toLocal (by unfold Zone.wall; omega) (by unfold Zone.wall; omega)
  · exact Zone.exists_toLocal (by unfold Zone.wall; omega) (by unfold Zone.wall; omega)

/-- A time counted from now is an answer only if the clock shows it. -/
private theorem toLocal_of_laterBy {z : Zone} {amount : Nat} {unit : Span} {second : Int}
    (h : laterBy z now amount unit = .ok second) : ∃ t, z.toLocal (.ofSeconds second) = .ok t := by
  unfold laterBy at h
  obtain ⟨base, _, h⟩ := ok_of_bind h
  obtain ⟨start, _, h⟩ := ok_of_bind h
  obtain ⟨t, ht, h⟩ := ok_of_bind h
  exact ⟨t, Except.ok.inj h ▸ ht⟩

variable {text : Text} (hlength : text.length ≤ Text.maxDigits)
include hlength

theorem readRelative_answers (z : Zone) (hyear : 2 ≤ now.date.year ∧ now.date.year ≤ 9998) :
    Answers z (readRelative z now text) := by
  have hreads := reads_relative now.date text hlength
  unfold readRelative
  cases hscan : relative now.date text with
  | accept offset rest =>
      rw [hscan] at hreads
      cases offset with
      | morning days =>
          obtain ⟨second, hsecond, t, ht⟩ := exists_morningAfter z hyear hreads.2
          dsimp only
          rw [hsecond]
          exact Answers.some ht
      | later amount unit =>
          dsimp only
          cases hlater : laterBy z now amount unit with
          | error fault => exact Answers.none
          | ok second =>
              obtain ⟨t, ht⟩ := toLocal_of_laterBy hlater
              exact Answers.some ht
  | reject => exact Answers.none
  | fault cause rest =>
      rw [hscan] at hreads
      exact hreads.elim

theorem readAbsolute_answers (z : Zone) (hyear : 2 ≤ now.date.year ∧ now.date.year ≤ 9998) :
    Answers z (readAbsolute z now text) := by
  have hreads := reads_monthDay text hlength
  unfold readAbsolute
  cases hscan : monthDay text with
  | accept found rest =>
      rw [hscan] at hreads
      obtain ⟨month, day⟩ := found
      obtain ⟨_, hmonth, hday⟩ := hreads
      obtain ⟨second, hsecond, t, ht⟩ := exists_nextMonthDay z hyear hmonth hday
      dsimp only
      rw [hsecond]
      exact Answers.some ht
  | reject =>
      dsimp only
      split
      · obtain ⟨second, hsecond, t, ht⟩ :=
          exists_morningAfter z hyear (now.date.daysUntil_bounds _)
        rw [hsecond]
        exact Answers.some ht
      · exact Answers.none
  | fault cause rest =>
      rw [hscan] at hreads
      exact hreads.elim

theorem readTime_answers (z : Zone) (hyear : 2 ≤ now.date.year ∧ now.date.year ≤ 9998) :
    Answers z (readTime z now text) := by
  have hreads := reads_timeOfDay text hlength
  unfold readTime
  cases hscan : timeOfDay text with
  | accept found rest =>
      rw [hscan] at hreads
      obtain ⟨hour, minute⟩ := found
      obtain ⟨second, hsecond, ⟨t, ht⟩, t', ht'⟩ := exists_timeToday z hyear hreads.2
      obtain ⟨count, hcount⟩ := exists_count z hyear
      dsimp only
      rw [hsecond]
      simp only [bind, Except.bind, hcount]
      split
      · exact Answers.some ht'
      · exact Answers.some ht
  | reject => exact Answers.none
  | fault cause rest =>
      rw [hscan] at hreads
      exact hreads.elim

end Rules

/-- Rules that answer one by one answer as a sequence, of which the first that names a second
counts. -/
theorem firstRule_answers {z : Zone} {now : LocalTime} {text : Text} {rules : List Rule}
    (h : ∀ rule ∈ rules, Answers z (rule z now text)) : Answers z (firstRule rules z now text) := by
  induction rules with
  | nil => exact Answers.none
  | cons rule more ih =>
      obtain ⟨found, hfound, hshown⟩ := h rule List.mem_cons_self
      unfold firstRule
      rw [hfound]
      cases found with
      | none => exact ih fun other hother => h other (List.mem_cons_of_mem _ hother)
      | some second => exact ⟨_, rfl, hshown⟩

theorem rules_answer {z : Zone} {now : LocalTime} {text : Text}
    (hlength : text.length ≤ Text.maxDigits) (hyear : 2 ≤ now.date.year ∧ now.date.year ≤ 9998) :
    ∀ rule ∈ rules, Answers z (rule z now text) := by
  intro rule hrule
  simp only [rules, List.mem_cons, List.not_mem_nil, or_false] at hrule
  rcases hrule with rfl | rfl | rfl
  · exact readRelative_answers hlength z hyear
  · exact readAbsolute_answers hlength z hyear
  · exact readTime_answers hlength z hyear

private theorem eq_of_usable? {text : Option Text} {usable : Text}
    (h : usable? text = some usable) : text = some usable := by
  unfold usable? at h
  split at h
  · split_ifs at h
    exact h
  · cases h

/-- Phrases fail only by naming nothing. From any local day of the years 2 to 9998, a text that is
short enough for its numerals to be read, or none at all, is answered with nothing or with a second
that the local clock shows. -/
theorem resolve_answers {clock : WallClock} {anchor : Anchor} {now : LocalTime}
    (hnow : clock.resolve anchor = .ok now) (hyear : 2 ≤ now.date.year ∧ now.date.year ≤ 9998)
    {text : Option Text} (hlength : ∀ t ∈ text, t.length ≤ Text.maxDigits) :
    Answers clock.zone (resolve clock anchor text) ∧
      Answers clock.zone (resolveTime clock anchor text) := by
  unfold resolve resolveTime
  cases husable : usable? text with
  | none => exact ⟨Answers.none, Answers.none⟩
  | some usable =>
      have hshort := hlength usable (eq_of_usable? husable)
      dsimp only
      rw [hnow]
      exact ⟨firstRule_answers (rules_answer hshort hyear),
        readTime_answers hshort clock.zone hyear⟩

/-- The last morning that a phrase can name from the year 9998. -/
theorem resolve_answers_last_morning :
    let clock : WallClock := ⟨.eastAustralia, .ofInt 0⟩
    let noon : LocalTime := .on ⟨9998, 12, 31, by decide⟩ ⟨12, 0, 0, by decide⟩
    resolve clock (.localTime noon) (some "dec 31".toList) = .ok (some 253402207200) ∧
      ∃ t, clock.zone.toLocal (.ofSeconds 253402207200) = .ok t := by
  intro clock noon
  have hvalue : resolve clock (.localTime noon) (some "dec 31".toList) =
      .ok (some 253402207200) := by decide +kernel
  have hnow : clock.resolve (.localTime noon) = .ok noon := rfl
  have hlength : ∀ t ∈ some "dec 31".toList, t.length ≤ Text.maxDigits := by
    intro t ht
    rw [← Option.some.inj ht]
    decide
  obtain ⟨found, hfound, hshown⟩ := (resolve_answers hnow (by decide) hlength).1
  have hsame : found = some 253402207200 := Except.ok.inj (hfound.symm.trans hvalue)
  exact ⟨hvalue, hshown _ hsame⟩

end Agenda.Phrase
