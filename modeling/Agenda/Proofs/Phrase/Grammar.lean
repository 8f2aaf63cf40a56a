import Agenda.Proofs.Phrase.Beginning
import Mathlib

/-!
What the grammars accept. A value that is read is one that there is: a time of day, a day of a month
or an amount of a unit of time.
-/

namespace Agenda.Phrase

open Calendar Text Scanner

/-- A time of day is one that there is, and it is written behind blanks with a digit in front. -/
theorem timeOfDay_accept {text rest : Text} {hour minute : Nat}
    (h : timeOfDay text = .accept (hour, minute) rest) :
    (hour ≤ 23 ∧ minute ≤ 59) ∧
      ∃ c more, trimStart text = c :: more ∧ isPlainDigit c = true := by
  unfold timeOfDay at h
  rw [bind_of_accept (blanks_text text)] at h
  obtain ⟨number, afterNumber, hnumber, h⟩ := accept_of_bind h
  obtain ⟨_, _, _, h⟩ := accept_of_bind h
  obtain ⟨colon, _, _, h⟩ := accept_of_bind h
  have hrest : ∀ {minutes : Nat} {s : Text},
      (do
        blanks
        let hour := hourOfDay number (← Scanner.optional halfOfDay)
        guard (decide (hour ≤ 23) && decide (minutes ≤ 59))
        return (hour, minutes)) s = Scanned.accept (hour, minute) rest →
      hour ≤ 23 ∧ minute ≤ 59 := by
    intro minutes s hread
    obtain ⟨_, _, _, hread⟩ := accept_of_bind hread
    obtain ⟨half, _, _, hread⟩ := accept_of_bind hread
    obtain ⟨_, _, hguard, hread⟩ := accept_of_bind hread
    cases hread
    simpa using of_guard_accept hguard
  constructor
  · cases colon with
    | none =>
        obtain ⟨_, _, _, h⟩ := accept_of_bind h
        exact hrest h
    | some _ =>
        obtain ⟨_, _, _, h⟩ := accept_of_bind h
        exact hrest h
  · apply digit_of_numeral
    rw [hnumber]
    exact nofun

/-- A day of a month is read as a month of the year and a day of the longest months. -/
theorem monthDay_accept {text rest : Text} {month day : Nat}
    (h : monthDay text = .accept (month, day) rest) :
    (1 ≤ month ∧ month ≤ 12) ∧ 1 ≤ day ∧ day ≤ 31 := by
  obtain ⟨_, _, _, h⟩ := accept_of_bind h
  obtain ⟨found, _, hfound, h⟩ := accept_of_bind h
  obtain ⟨_, _, _, h⟩ := accept_of_bind h
  obtain ⟨_, _, _, h⟩ := accept_of_bind h
  obtain ⟨_, _, _, h⟩ := accept_of_bind h
  obtain ⟨_, _, _, h⟩ := accept_of_bind h
  obtain ⟨number, _, _, h⟩ := accept_of_bind h
  obtain ⟨_, _, hguard, h⟩ := accept_of_bind h
  cases h
  have hday := of_guard_accept hguard
  obtain ⟨i, _, hname, hvalue⟩ := accept_of_bind hfound
  have hmonth : month = i + 1 := by
    cases hvalue
    rfl
  have hplace := nameIn_accept hname
  have hlength : monthNames.length = 12 := rfl
  simp only [Bool.and_eq_true, decide_eq_true_eq] at hday
  omega

theorem amountAhead_accept {text rest : Text} {offset : Offset}
    (h : amountAhead text = .accept offset rest) : ∃ amount unit, offset = .later amount unit := by
  obtain ⟨_, _, _, h⟩ := accept_of_bind h
  obtain ⟨amount, _, _, h⟩ := accept_of_bind h
  obtain ⟨_, _, _, h⟩ := accept_of_bind h
  obtain ⟨word, _, _, h⟩ := accept_of_bind h
  cases hunit : Span.ofWord? word with
  | none =>
      rw [hunit] at h
      cases h
  | some unit =>
      rw [hunit] at h
      cases h
      exact ⟨amount, unit, rfl⟩

section Relative

variable (today : Date) (rest : Text)

/-- Behind "in" an amount of a unit is read. -/
theorem relative_in : relative today ("in ".toList ++ rest) = amountAhead (' ' :: rest) := by
  have hbegins : "in".toList <+: ("in ".toList ++ rest).map foldChar := ⟨_, rfl⟩
  have htomorrow : keyword "tomorrow".toList ("in ".toList ++ rest) = .reject :=
    keyword_of_apart (by decide) hbegins (by decide)
  have hnext : keyword "next".toList ("in ".toList ++ rest) = .reject :=
    keyword_of_apart (by decide) hbegins (by decide)
  have hin : keyword "in".toList ("in ".toList ++ rest) = .accept () (' ' :: rest) := rfl
  have hamount := bind_of_accept (f := fun _ => amountAhead) hin
  have hskip : trimStart ("in ".toList ++ rest) = "in ".toList ++ rest := rfl
  unfold relative
  rw [bind_of_accept (blanks_text _), hskip, orElse_of_reject (map_of_reject htomorrow)]
  by_cases hreject : amountAhead (' ' :: rest) = .reject
  · rw [orElse_of_reject (hamount.trans hreject), hreject]
    exact bind_of_reject hnext
  · rw [orElse_of_not_reject (fun h => hreject (hamount.symm.trans h))]
    exact hamount

/-- Behind "next" a weekday is read. -/
theorem relative_next :
    relative today ("next ".toList ++ rest) = nextWeekday today (' ' :: rest) := by
  have hbegins : "next".toList <+: ("next ".toList ++ rest).map foldChar := ⟨_, rfl⟩
  have htomorrow : keyword "tomorrow".toList ("next ".toList ++ rest) = .reject :=
    keyword_of_apart (by decide) hbegins (by decide)
  have hin : keyword "in".toList ("next ".toList ++ rest) = .reject :=
    keyword_of_apart (by decide) hbegins (by decide)
  have hnext : keyword "next".toList ("next ".toList ++ rest) = .accept () (' ' :: rest) := rfl
  have hskip : trimStart ("next ".toList ++ rest) = "next ".toList ++ rest := rfl
  unfold relative
  rw [bind_of_accept (blanks_text _), hskip, orElse_of_reject (map_of_reject htomorrow),
    orElse_of_reject (bind_of_reject hin)]
  exact bind_of_accept hnext

end Relative

end Agenda.Phrase
