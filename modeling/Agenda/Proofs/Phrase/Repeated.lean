import Agenda.Phrase.Resolve
import Agenda.Proofs.Clock.Anchor
import Agenda.Proofs.Clock.Turn
import Agenda.Proofs.Phrase.Draft
import Agenda.Proofs.Phrase.Grammar
import Mathlib

/-!
What a phrase means on the second pass of an hour that the clock shows twice, and what it means if
the pass is forgotten. Phrases look at the pass only to tell whether a time has gone by. That makes
a difference where a time of the same hour is named that the second pass has not come to yet: it has
gone by on the first pass.
-/

namespace Agenda.Phrase

open Calendar Clock

/-- The reading of the clock at a time of today. -/
def todayAt (now : LocalTime) (hour minute : Nat) : Int :=
  86400 * now.date.dayNumber + 3600 * hour + 60 * minute

/-- The text names a time of today that the clock shows twice, and the clock shows that time or an
earlier one for the second time now. -/
def NamesRepeated (z : Zone) (now : LocalTime) (text : Text) : Prop :=
  now.again = true ∧ ∃ hour minute rest, timeOfDay text = .accept (hour, minute) rest ∧
    now.reading ≤ todayAt now hour minute ∧ z.ShowsTwice (todayAt now hour minute)

/-- Now on the second pass of an hour that the clock shows twice: the hour starts at the turn, and
the count of seconds is an hour less if the pass is forgotten. -/
structure OnSecondPass (z : Zone) (e turn : Int) (now : LocalTime) : Prop where
  turns : z.PutsBack turn
  turn_le : turn ≤ e
  lt_turn : e < turn + 3600
  reading_eq : now.reading = e + z.standard
  count : z.toCount now = .ok e
  count_firstPass : z.toCount now.firstPass = .ok ((e - 3600 : Int) : Rat)

section

variable {z : Zone} {e : Int} {now : LocalTime}

theorem exists_onSecondPass (hnow : z.toLocal (.ofSeconds e) = .ok now)
    (hyear : 2 ≤ now.date.year ∧ now.date.year ≤ 9998) (hagain : now.again = true) :
    ∃ turn, OnSecondPass z e turn now := by
  obtain ⟨hlocal, hshown⟩ := Zone.toLocal_spec hnow
  obtain ⟨_, hreading, hmicro, _⟩ := Zone.ofReading_spec hlocal
  obtain ⟨turn, hturns, hle, hlt⟩ := Zone.exists_putsBack_of_repeated (hshown.mp hagain).2
  have heq : now.reading = e + z.standard := by
    rw [hreading, Zone.wall, hturns.after e hle (by omega)]
  have hfirst := hturns.secondOf_before (Zone.isInner_reading hyear false) (by omega) (by omega)
  refine ⟨turn, hturns, hle, hlt, heq, Zone.toCount_toLocal hnow hyear, ?_⟩
  apply Zone.toCount_eq (t := now.firstPass) hmicro
  change z.secondOf now.reading false = _
  rw [hfirst, Except.ok.injEq]
  omega

theorem readRelative_firstPass (text : Text) :
    readRelative z now.firstPass text = readRelative z now text := rfl

/-- A morning is never in the hour that is shown twice, so none has gone by on one pass only. -/
private theorem morning_lt_iff {turn second : Int} (h : OnSecondPass z e turn now) {d : Draft}
    (hsecond : d.inMorning.toTimestamp z = .ok second) : second < e - 3600 ↔ second < e := by
  obtain ⟨t, ht, hsecond⟩ := ok_of_bind hsecond
  obtain ⟨date, rfl⟩ := Draft.toLocal_inMorning ht
  have hcases := Zone.secondOf_cases (Zone.secondOf_of_toTimestamp rfl hsecond)
  have hmorning : (LocalTime.on date .morning).reading = 86400 * date.dayNumber + 32400 := rfl
  -- nine in the morning is hours away from the repeated hour, whatever the day
  have hnight := h.turns.at_night
  obtain ⟨_, hle, hlt, _⟩ := h
  omega

private theorem nextMonthDay_firstPass {turn : Int} (h : OnSecondPass z e turn now)
    (month day : Nat) : nextMonthDay z now.firstPass month day = nextMonthDay z now month day := by
  have hdraft : Draft.ofLocal now.firstPass = Draft.ofLocal now := rfl
  unfold nextMonthDay
  rw [hdraft, h.count, h.count_firstPass]
  dsimp only
  generalize ({ Draft.ofLocal now with month := month, day := day } : Draft) = d
  cases hsecond : d.inMorning.toTimestamp z with
  | error fault => rfl
  | ok second =>
      have hpast : ((second : Rat) < ((e - 3600 : Int) : Rat)) = ((second : Rat) < (e : Rat)) := by
        rw [Int.cast_lt, Int.cast_lt, morning_lt_iff h hsecond]
      simp only [bind, Except.bind, hpast]

theorem readAbsolute_firstPass (hnow : z.toLocal (.ofSeconds e) = .ok now)
    (hyear : 2 ≤ now.date.year ∧ now.date.year ≤ 9998) (text : Text) :
    readAbsolute z now.firstPass text = readAbsolute z now text := by
  cases hagain : now.again with
  | false => rw [LocalTime.firstPass_of_not_again hagain]
  | true =>
      obtain ⟨turn, h⟩ := exists_onSecondPass hnow hyear hagain
      unfold readAbsolute
      simp only [nextMonthDay_firstPass h]
      rfl

/-- The times of today lie less than a day away from the turn. -/
private theorem near_turn {turn : Int} (h : OnSecondPass z e turn now) {hour minute : Nat}
    (htime : hour ≤ 23 ∧ minute ≤ 59) :
    turn + z.standard - 86400 ≤ todayAt now hour minute ∧
      todayAt now hour minute ≤ turn + z.standard + 86400 := by
  have hnight := h.turns.at_night
  have hday := now.reading_bounds
  obtain ⟨_, hle, hlt, heq, _⟩ := h
  unfold todayAt
  omega

/-- A time of today is on the calendar, and the clock reads it there. -/
theorem exists_today {t : LocalTime} (hyear : 2 ≤ t.date.year) {hour minute : Nat}
    (htime : hour ≤ 23 ∧ minute ≤ 59) :
    ∃ time, ((Draft.ofLocal t).atTime hour minute 0).toLocal = .ok (.on t.date time) ∧
      (LocalTime.on t.date time).reading = todayAt t hour minute := by
  obtain ⟨time, hlocal, hseconds⟩ := Draft.exists_toLocal_atTime hyear htime
  refine ⟨time, hlocal, ?_⟩
  rw [todayAt, Int.add_assoc, ← hseconds]
  rfl

/-- A time of today has the second that its reading means. -/
theorem exists_secondOf_today {t : LocalTime} (hyear : 2 ≤ t.date.year ∧ t.date.year ≤ 9998)
    {hour minute : Nat} (htime : hour ≤ 23 ∧ minute ≤ 59) :
    ∃ second, ((Draft.ofLocal t).atTime hour minute 0).toTimestamp z = .ok second ∧
      z.secondOf (todayAt t hour minute) false = .ok second ∧
      Zone.IsInner (todayAt t hour minute) false := by
  obtain ⟨time, hlocal, hreading⟩ := exists_today hyear.1 htime
  have hinner : Zone.IsInner (LocalTime.on t.date time).reading false :=
    Zone.isInner_reading (t := .on t.date time) hyear false
  obtain ⟨second, hsecond, _⟩ := Zone.secondOf_spec (z := z) hinner
  rw [← hreading, Draft.toTimestamp, hlocal]
  exact ⟨second, Zone.toTimestamp_eq rfl hsecond, hsecond, hinner⟩

/-- The second of a time of today: up to the end of the repeated hour it is the first one. -/
private theorem timeToday_eq {turn : Int} (h : OnSecondPass z e turn now)
    (hyear : 2 ≤ now.date.year ∧ now.date.year ≤ 9998) {hour minute : Nat}
    (htime : hour ≤ 23 ∧ minute ≤ 59) :
    ((Draft.ofLocal now).atTime hour minute 0).toTimestamp z = .ok (
      if todayAt now hour minute < turn + z.standard + 3600 then
        todayAt now hour minute - (z.standard + 3600)
      else todayAt now hour minute - z.standard) := by
  obtain ⟨second, hsecond, hmeant, hinner⟩ := exists_secondOf_today (z := z) hyear htime
  obtain ⟨hfrom, hto⟩ := near_turn h htime
  rw [hsecond, ← hmeant]
  split_ifs with hbefore
  · exact h.turns.secondOf_before hinner hfrom hbefore
  · exact h.turns.secondOf_after hinner (by omega) hto

theorem readTime_accept {text : Text} {second : Int}
    (h : readTime z now text = .ok (some second)) :
    ∃ hour minute rest, timeOfDay text = .accept (hour, minute) rest := by
  unfold readTime at h
  split at h
  · next hour minute rest hread => exact ⟨hour, minute, rest, hread⟩
  · cases h
  · cases h

theorem readTime_eq {t : LocalTime} {text rest : Text} {hour minute : Nat} {second : Int}
    {count : Rat} (haccept : timeOfDay text = .accept (hour, minute) rest)
    (hsecond : ((Draft.ofLocal t).atTime hour minute 0).toTimestamp z = .ok second)
    (hcount : z.toCount t = .ok count) :
    readTime z t text = .ok (some (if (second : Rat) < count then second + 86400 else second)) := by
  unfold readTime
  rw [haccept]
  dsimp only
  rw [hsecond, hcount]
  simp only [bind, Except.bind]
  split <;> rfl

/-- A time of today has gone by on one pass only if it is shown twice and the second pass is still
to come to it. -/
private theorem readTime_of_accept {turn : Int} (h : OnSecondPass z e turn now)
    (hyear : 2 ≤ now.date.year ∧ now.date.year ≤ 9998) {text rest : Text} {hour minute : Nat}
    (haccept : timeOfDay text = .accept (hour, minute) rest) :
    readTime z now.firstPass text = readTime z now text ↔
      ¬ (now.reading ≤ todayAt now hour minute ∧ z.ShowsTwice (todayAt now hour minute)) := by
  obtain ⟨htime, _⟩ := timeOfDay_accept haccept
  obtain ⟨hfrom, hto⟩ := near_turn h htime
  have hsecond := timeToday_eq h hyear htime
  rw [readTime_eq haccept hsecond h.count,
    readTime_eq (t := now.firstPass) haccept hsecond h.count_firstPass,
    h.turns.showsTwice_iff hfrom hto, h.reading_eq, Except.ok.injEq, Option.some.injEq]
  simp only [Int.cast_lt]
  -- one second is compared with two counts that are an hour apart
  obtain ⟨_, hle, hlt, _⟩ := h
  split_ifs <;> omega

private theorem readTime_of_not_accept {text : Text}
    (h : ¬ ∃ hour minute rest, timeOfDay text = .accept (hour, minute) rest) (t t' : LocalTime) :
    readTime z t text = readTime z t' text := by
  unfold readTime
  split
  · next hour minute rest haccept => exact absurd ⟨hour, minute, rest, haccept⟩ h
  · rfl
  · rfl

theorem readTime_firstPass_iff (hnow : z.toLocal (.ofSeconds e) = .ok now)
    (hyear : 2 ≤ now.date.year ∧ now.date.year ≤ 9998) (text : Text) :
    readTime z now.firstPass text = readTime z now text ↔ ¬ NamesRepeated z now text := by
  cases hagain : now.again with
  | false =>
      rw [LocalTime.firstPass_of_not_again hagain]
      refine iff_of_true rfl ?_
      rintro ⟨htrue, _⟩
      rw [hagain] at htrue
      cases htrue
  | true =>
      obtain ⟨turn, h⟩ := exists_onSecondPass hnow hyear hagain
      by_cases haccepts : ∃ hour minute rest, timeOfDay text = .accept (hour, minute) rest
      · obtain ⟨hour, minute, rest, haccept⟩ := haccepts
        rw [readTime_of_accept h hyear haccept, not_iff_not]
        constructor
        · intro hrepeated
          exact ⟨hagain, hour, minute, rest, haccept, hrepeated⟩
        · rintro ⟨_, _, _, _, haccept', hrepeated⟩
          cases haccept.symm.trans haccept'
          exact hrepeated
      · refine iff_of_true (readTime_of_not_accept haccepts _ _) ?_
        rintro ⟨_, hour, minute, rest, haccept, _⟩
        exact haccepts ⟨hour, minute, rest, haccept⟩

/-- A text that starts with a time of day means that time. -/
private theorem firstRule_of_accept {text rest : Text} {hour minute : Nat}
    (haccept : timeOfDay text = .accept (hour, minute) rest) (t : LocalTime) :
    firstRule rules z t text = readTime z t text := by
  apply firstRule_of_mem (fun _ => id) (by simp [rules])
  intro hnone
  unfold readTime at hnone
  rw [haccept] at hnone
  obtain ⟨second, _, hnone⟩ := ok_of_bind hnone
  obtain ⟨count, _, hnone⟩ := ok_of_bind hnone
  split at hnone <;> cases hnone

/-- A phrase means the same if the pass of now is forgotten, except where it names a time of the
repeated hour that the second pass has not gone by. -/
theorem firstRule_firstPass_iff (hnow : z.toLocal (.ofSeconds e) = .ok now)
    (hyear : 2 ≤ now.date.year ∧ now.date.year ≤ 9998) (text : Text) :
    firstRule rules z now.firstPass text = firstRule rules z now text ↔
      ¬ NamesRepeated z now text := by
  by_cases haccepts : ∃ hour minute rest, timeOfDay text = .accept (hour, minute) rest
  · obtain ⟨hour, minute, rest, haccept⟩ := haccepts
    rw [firstRule_of_accept haccept, firstRule_of_accept haccept]
    exact readTime_firstPass_iff hnow hyear text
  · have hrelative : readRelative z now.firstPass text = readRelative z now text :=
      readRelative_firstPass text
    have habsolute : readAbsolute z now.firstPass text = readAbsolute z now text :=
      readAbsolute_firstPass hnow hyear text
    have htime := readTime_of_not_accept (z := z) haccepts now.firstPass now
    refine iff_of_true ?_ ?_
    · simp only [rules, firstRule, hrelative, habsolute, htime]
    · rintro ⟨_, hour, minute, rest, haccept, _⟩
      exact haccepts ⟨hour, minute, rest, haccept⟩

end

end Agenda.Phrase
