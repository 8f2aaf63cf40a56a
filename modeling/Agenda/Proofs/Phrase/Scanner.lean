import Agenda.Phrase.Grammar
import Agenda.Proofs.Calendar.Dates
import Mathlib

/-!
Scanners on texts that are short enough for every numeral in them to be read. None of them fails
there, and the values that they read lie in the ranges of their kinds.
-/

namespace Agenda.Phrase

open Calendar

namespace Scanner

variable {α β : Type}

/-- On texts that have no more code points than a numeral may have digits the scanner does not fail.
What it reads satisfies the condition, and what it leaves is no longer than the text. -/
def Reads (p : Scanner Text α) (condition : α → Prop) : Prop :=
  ∀ s : Text, s.length ≤ Text.maxDigits →
    match p s with
    | .accept a rest => rest.length ≤ s.length ∧ condition a
    | .reject => True
    | .fault _ _ => False

theorem Reads.mono {p : Scanner Text α} {condition weaker : α → Prop} (h : Reads p condition)
    (hweaker : ∀ a, condition a → weaker a) : Reads p weaker := by
  intro s hs
  have hp := h s hs
  cases hread : p s with
  | accept a rest =>
      rw [hread] at hp
      exact ⟨hp.1, hweaker a hp.2⟩
  | reject => trivial
  | fault cause rest =>
      rw [hread] at hp
      exact hp

theorem Reads.pure {condition : α → Prop} {a : α} (h : condition a) :
    Reads (Pure.pure a) condition :=
  fun _ _ => ⟨le_rfl, h⟩

theorem Reads.fail {condition : α → Prop} : Reads fail condition := fun _ _ => trivial

/-- One scanner after another: the second starts on what the first has left, which is no longer. -/
theorem Reads.bind {p : Scanner Text α} {f : α → Scanner Text β} {first : α → Prop}
    {second : β → Prop} (hp : Reads p first) (hf : ∀ a, first a → Reads (f a) second) :
    Reads (p >>= f) second := by
  intro s hs
  have hp' := hp s hs
  have hbind : (p >>= f) s = andThen p f s := rfl
  rw [hbind, andThen]
  cases hread : p s with
  | accept a middle =>
      rw [hread] at hp'
      have hf' := hf a hp'.2 middle (le_trans hp'.1 hs)
      dsimp only
      cases hnext : f a middle with
      | accept b rest =>
          rw [hnext] at hf'
          exact ⟨le_trans hf'.1 hp'.1, hf'.2⟩
      | reject => trivial
      | fault cause rest =>
          rw [hnext] at hf'
          exact hf'
  | reject => trivial
  | fault cause rest =>
      rw [hread] at hp'
      exact hp'

theorem Reads.map {p : Scanner Text α} {f : α → β} {first : α → Prop} {second : β → Prop}
    (hp : Reads p first) (hf : ∀ a, first a → second (f a)) : Reads (f <$> p) second :=
  hp.bind fun a ha => .pure (hf a ha)

theorem Reads.orElse {p q : Scanner Text α} {condition : α → Prop} (hp : Reads p condition)
    (hq : Reads q condition) : Reads (p.orElse q) condition := by
  intro s hs
  have hp' := hp s hs
  unfold Scanner.orElse
  cases hread : p s with
  | accept a rest =>
      rw [hread] at hp'
      exact hp'
  | reject => exact hq s hs
  | fault cause rest =>
      rw [hread] at hp'
      exact hp'.elim

theorem Reads.optional {p : Scanner Text α} {condition : α → Prop} (hp : Reads p condition) :
    Reads (Scanner.optional p) fun found => ∀ a ∈ found, condition a := by
  refine Reads.orElse (hp.map fun a ha => ?_) (.pure ?_)
  · intro b hb
    rwa [← Option.some.inj hb]
  · simp

theorem reads_guard (condition : Bool) : Reads (guard condition) fun _ => condition = true := by
  cases condition with
  | true => exact .pure rfl
  | false => exact .fail

theorem reads_ahead : Reads ahead fun _ => True := fun _ _ => ⟨le_rfl, trivial⟩

theorem reads_peek (n : Nat) : Reads (peek n) fun _ => True := fun _ _ => ⟨le_rfl, trivial⟩

theorem reads_pass (n : Nat) : Reads (pass n) fun _ => True :=
  fun s _ => ⟨(List.drop_sublist n s).length_le, trivial⟩

theorem reads_count (isOne : Char → Bool) : Reads (count isOne) fun _ => True :=
  reads_ahead.bind fun _ _ => .pure trivial

theorem reads_take (n : Nat) : Reads (take n) fun _ => True :=
  (reads_peek n).bind fun _ _ => (reads_pass n).bind fun _ _ => .pure trivial

theorem reads_blanks : Reads blanks fun _ => True :=
  (reads_count _).bind fun n _ => reads_pass n

theorem reads_literal (expected : Text) : Reads (literal expected) fun _ => True :=
  (reads_take _).bind fun _ _ => (reads_guard _).mono fun _ _ => trivial

theorem reads_keyword (expected : Text) : Reads (keyword expected) fun _ => True :=
  (reads_literal expected).bind fun _ _ => reads_ahead.bind fun _ _ =>
    (reads_guard _).mono fun _ _ => trivial

theorem reads_word : Reads word fun _ => True :=
  (reads_count _).bind fun n _ => (reads_take n).bind fun _ _ => .pure trivial

/-- A numeral has no more digits than the text has code points. -/
theorem reads_numeral : Reads numeral fun _ => True := by
  intro s hs
  have hlength := (List.takeWhile_sublist Text.isPlainDigit (l := s)).length_le
  have hrest := (List.dropWhile_sublist Text.isPlainDigit (l := s)).length_le
  rw [numeral_text]
  split_ifs with hnil
  · trivial
  · rw [numberOf, if_neg hnil, if_neg (by omega)]
    exact ⟨hrest, trivial⟩

/-- The place that is read is one in the list. -/
theorem reads_nameIn (names : List Text) : Reads (nameIn names) fun i => i < names.length := by
  refine (reads_count _).bind fun n _ => (reads_peek n).bind fun found _ =>
    (reads_guard _).bind fun _ _ => ?_
  split
  · next i hi =>
      have hlt := (List.findIdx?_eq_some_iff_getElem.mp hi).1
      exact (reads_pass _).bind fun _ _ => .pure hlt
  · exact .fail

end Scanner

open Scanner

theorem reads_weekday : Reads weekday fun n => n < 7 := reads_nameIn weekdayNames

theorem reads_month : Reads month fun n => 1 ≤ n ∧ n ≤ 12 := by
  refine (reads_nameIn monthNames).map fun i hi => ?_
  have hlength : monthNames.length = 12 := rfl
  omega

theorem reads_halfOfDay : Reads halfOfDay fun _ => True := by
  refine .orElse ?_ (.orElse ?_ (.orElse ?_ ?_)) <;> exact (reads_keyword _).map fun _ _ => trivial

/-- A time of day is read as one that there is. -/
theorem reads_timeOfDay : Reads timeOfDay fun time => time.1 ≤ 23 ∧ time.2 ≤ 59 := by
  refine reads_blanks.bind fun _ _ => reads_numeral.bind fun hour _ => reads_blanks.bind fun _ _ =>
    (reads_literal _).optional.bind fun colon _ => ?_
  have hrest : ∀ minute : Nat, Reads (do
      blanks
      let hour := hourOfDay hour (← Scanner.optional halfOfDay)
      guard (decide (hour ≤ 23) && decide (minute ≤ 59))
      return (hour, minute)) fun time => time.1 ≤ 23 ∧ time.2 ≤ 59 := by
    intro minute
    refine reads_blanks.bind fun _ _ => reads_halfOfDay.optional.bind fun half _ =>
      (reads_guard _).bind fun _ hguard => .pure ?_
    simpa using hguard
  cases colon with
  | none =>
      have hnone : Reads (pure 0) fun _ => True := .pure trivial
      exact hnone.bind fun minute _ => hrest minute
  | some _ => exact reads_numeral.bind fun minute _ => hrest minute

/-- A day of a month is read as a month of the year and a day of the longest months. -/
theorem reads_monthDay :
    Reads monthDay fun day => (1 ≤ day.1 ∧ day.1 ≤ 12) ∧ 1 ≤ day.2 ∧ day.2 ≤ 31 := by
  refine reads_blanks.bind fun _ _ => reads_month.bind fun month hmonth =>
    (reads_literal _).optional.bind fun _ _ => reads_blanks.bind fun _ _ =>
      (reads_literal _).optional.bind fun _ _ => reads_blanks.bind fun _ _ =>
        reads_numeral.bind fun day _ => (reads_guard _).bind fun _ hguard => .pure ⟨hmonth, ?_⟩
  simpa using hguard

/-- What a day or time counted from now can be: a day of the next week, or any amount of a unit. -/
def Offset.IsNear : Offset → Prop
  | .morning days => 1 ≤ days ∧ days ≤ 7
  | .later _ _ => True

theorem reads_relative (today : Date) : Reads (relative today) Offset.IsNear := by
  refine reads_blanks.bind fun _ _ => .orElse ?_ (.orElse ?_ ?_)
  · exact (reads_keyword _).map fun _ _ => by simp [Offset.IsNear]
  · refine (reads_keyword _).bind fun _ _ => reads_blanks.bind fun _ _ =>
      reads_numeral.bind fun amount _ => reads_blanks.bind fun _ _ => reads_word.bind fun w _ => ?_
    split
    · exact .pure trivial
    · exact .fail
  · exact (reads_keyword _).bind fun _ _ => reads_blanks.bind fun _ _ =>
      reads_weekday.bind fun weekday _ => .pure (today.daysUntil_bounds weekday)

end Agenda.Phrase
