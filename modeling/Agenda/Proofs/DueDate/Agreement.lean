import Agenda.Proofs.DueDate.Distinct
import Agenda.Proofs.DueDate.Window
import Mathlib

/-!
The words for a due date and the date windows agree. What the words begin with tells the form in
which the day is worded, and a form is for days that are so and so far ahead. A window holds the same
days, by its bounds in seconds.
-/

namespace Agenda.DueDate

open Calendar Clock Text

namespace DayForm

/-- No two forms are for the same day. -/
theorem ofAhead_eq_iff (ahead : Int) (form : DayForm) :
    ofAhead ahead = form ↔ form.IsFor ahead := by
  constructor
  · rintro rfl
    exact isFor_ofAhead ahead
  · intro h
    cases form with
    | today => exact if_pos h
    | tomorrow =>
        dsimp only [IsFor] at h
        rw [ofAhead, if_neg (by omega), if_pos h]
    | weekday =>
        dsimp only [IsFor] at h
        rw [ofAhead, if_neg (by omega), if_neg (by omega), if_pos (by omega)]
    | monthDay =>
        dsimp only [IsFor] at h
        rw [ofAhead, if_neg (by omega), if_neg (by omega), if_neg (by omega)]

variable {form : DayForm} {date : Date} {rest : Text}

/-- Words tell their form by what they begin with. -/
theorem eq_ofFront {front : Text} (hlength : 4 ≤ front.length)
    (h : front <+: form.words date ++ rest) : form = ofFront front := by
  obtain ⟨behind, hwords⟩ := h
  rw [← ofFront_words form date rest, ← hwords, ofFront_append hlength]

theorem today_prefix_iff :
    "Today at ".toList <+: form.words date ++ (" at ".toList ++ rest) ↔ form = today := by
  constructor
  · intro h
    exact eq_ofFront (by decide) h
  · rintro rfl
    exact ⟨rest, rfl⟩

theorem tomorrow_prefix_iff :
    "Tomorrow at ".toList <+: form.words date ++ (" at ".toList ++ rest) ↔ form = tomorrow := by
  constructor
  · intro h
    exact eq_ofFront (by decide) h
  · rintro rfl
    exact ⟨rest, rfl⟩

theorem weekday_prefix_iff :
    (∃ name ∈ weekdayNames, capitalized name <+: form.words date ++ rest) ↔ form = weekday := by
  constructor
  · rintro ⟨name, hname, h⟩
    obtain ⟨day, hday, rfl⟩ := List.getElem_of_mem hname
    rw [← List.getD_eq_getElem _ [] hday] at h
    obtain ⟨hlength, hform⟩ := ofFront_weekdayName hday
    exact (eq_ofFront hlength h).trans hform
  · rintro rfl
    have hday : date.weekday < weekdayNames.length := date.weekday_lt
    refine ⟨weekdayNames[date.weekday], List.getElem_mem hday, ?_⟩
    rw [← List.getD_eq_getElem _ [] hday]
    exact List.prefix_append _ rest

end DayForm

section Windows

variable {clock : WallClock} {anchor : Anchor} {now shown : LocalTime}
  (hnow : clock.resolve anchor = .ok now) (hyear : 2 ≤ now.date.year ∧ now.date.year ≤ 9998)
  {due : Int} (hdue : due ≠ 0) (hshown : clock.zone.toLocal (.ofSeconds due) = .ok shown)
include hnow hyear hdue hshown

/-- The window of a period holds a due second of a day that the period means, and, unless it opens
at the instant that stands for an open side, no other. -/
theorem exists_window_admits (period : Period) :
    ∃ w, window clock anchor (some period.name) = .ok w ∧
      (period.Admits now.date.dayNumber shown.date.dayNumber → w.holds (some due) = true) ∧
      (w.start ≠ 0 → (w.holds (some due) = true ↔
        period.Admits now.date.dayNumber shown.date.dayNumber)) := by
  have hname : Period.ofName? (some period.name) = some period := by
    rw [Period.ofName?_eq_some_iff]
    cases period <;> decide
  obtain ⟨w, first, last, hw, hcovers, hspans⟩ := Period.exists_window clock.zone hyear period
  refine ⟨w, (window_of_period hnow hname).trans hw, ?_, ?_⟩
  · rw [hspans.admits_iff, Zone.dayNumber_toLocal hshown]
    exact hcovers.holds_of_day hdue
  · intro hstart
    rw [hcovers.holds_iff (hcovers.wall_zero_ne hstart) hdue, hspans.admits_iff,
      Zone.dayNumber_toLocal hshown]

end Windows

/-- The six days after today lie in this week or the next. -/
theorem admits_week {today day : Date}
    (h : 0 ≤ day.dayNumber - today.dayNumber ∧ day.dayNumber - today.dayNumber ≤ 6) :
    Period.thisWeek.Admits today.dayNumber day.dayNumber ∨
      Period.nextWeek.Admits today.dayNumber day.dayNumber := by
  obtain ⟨sunday, hsunday⟩ : ∃ n, IsNext 6 today.dayNumber n :=
    ⟨_, today.isNext_daysUntil 6 (by decide)⟩
  obtain ⟨monday, hmonday⟩ : ∃ n, IsNext 0 today.dayNumber n :=
    ⟨_, today.isNext_daysUntil 0 (by decide)⟩
  by_cases hthis : day.dayNumber ≤ sunday
  · exact Or.inl ⟨sunday, hsunday, by omega, hthis⟩
  · -- the day after a Sunday is a Monday
    have hafter : weekdayOf (sunday + 1) = 0 := by
      have hweekday := hsunday.weekdayOf_eq
      unfold weekdayOf at hweekday ⊢
      omega
    have hlater := hsunday.lt
    have hfirst := hmonday.le_of_lt (sunday + 1) (by omega) hafter
    have hstart := hmonday.lt
    exact Or.inr ⟨monday, hmonday, by omega, by omega⟩

/-- The words for a due date agree with the date windows. They begin with today or tomorrow exactly
if the window of that name holds the due second, unless the window opens at the instant that stands
for an open side, and they begin with a weekday exactly if the due date is two to six days ahead. All
that is worded in one of these ways lies in this week or the next. -/
theorem wording_agrees_with_windows {clock : WallClock} {anchor : Anchor} {now shown : LocalTime}
    (hnow : clock.resolve anchor = .ok now) (hyear : 2 ≤ now.date.year ∧ now.date.year ≤ 9998)
    {due : Int} (hdue : due ≠ 0) (hshown : clock.zone.toLocal (.ofSeconds due) = .ok shown) :
    ∃ words, wording clock anchor (instant? due) = .ok words ∧
      (∃ w, window clock anchor (some "today".toList) = .ok w ∧
        (w.start ≠ 0 → ("Today at ".toList <+: words ↔ w.holds (some due) = true))) ∧
      (∃ w, window clock anchor (some "tomorrow".toList) = .ok w ∧
        (w.start ≠ 0 → ("Tomorrow at ".toList <+: words ↔ w.holds (some due) = true))) ∧
      ((∃ name ∈ weekdayNames, capitalized name <+: words) ↔
        2 ≤ shown.date.dayNumber - now.date.dayNumber ∧
          shown.date.dayNumber - now.date.dayNumber ≤ 6) ∧
      ("Today at ".toList <+: words ∨ "Tomorrow at ".toList <+: words ∨
          (∃ name ∈ weekdayNames, capitalized name <+: words) →
        ∃ this next, window clock anchor (some "this_week".toList) = .ok this ∧
          window clock anchor (some "next_week".toList) = .ok next ∧
          (this.holds (some due) = true ∨ next.holds (some due) = true)) := by
  have hwords := wording_of_toLocal hnow hdue hshown
  rw [DayForm.dayText_eq, List.append_assoc] at hwords
  have hform := DayForm.ofAhead_eq_iff (shown.date.dayNumber - now.date.dayNumber)
  have hwindow := exists_window_admits hnow hyear hdue hshown
  obtain ⟨today, htoday, -, htodayDays⟩ := hwindow .today
  obtain ⟨tomorrow, htomorrow, -, htomorrowDays⟩ := hwindow .tomorrow
  obtain ⟨this, hthis, hthisDays, -⟩ := hwindow .thisWeek
  obtain ⟨next, hnext, hnextDays, -⟩ := hwindow .nextWeek
  refine ⟨_, hwords, ⟨today, htoday, fun hstart => ?_⟩, ⟨tomorrow, htomorrow, fun hstart => ?_⟩,
    ?_, fun hnear => ⟨this, next, hthis, hnext, ?_⟩⟩
  · rw [DayForm.today_prefix_iff, hform, htodayDays hstart]
    exact sub_eq_zero
  · rw [DayForm.tomorrow_prefix_iff, hform, htomorrowDays hstart]
    dsimp only [DayForm.IsFor, Period.Admits]
    omega
  · rw [DayForm.weekday_prefix_iff, hform]
    dsimp only [DayForm.IsFor]
    omega
  · rw [DayForm.today_prefix_iff, DayForm.tomorrow_prefix_iff, DayForm.weekday_prefix_iff,
      hform, hform, hform] at hnear
    dsimp only [DayForm.IsFor] at hnear
    exact (admits_week (by omega)).imp hthisDays hnextDays

/-- On the eve of the short day on which summer starts, half past eleven of that day is tomorrow, in
words as in the window. -/
theorem wording_agrees_with_windows_in_spring :
    let clock : WallClock := ⟨.eastAmerica, .ofInt 0⟩
    let noon : LocalTime := .on ⟨2026, 3, 7, by decide⟩ ⟨12, 0, 0, by decide⟩
    wording clock (.localTime noon) (instant? 1773027000) = .ok "Tomorrow at 11:30 PM".toList ∧
      ∃ w, window clock (.localTime noon) (some "tomorrow".toList) = .ok w ∧
        w.holds (some 1773027000) = true := by
  intro clock noon
  have hnow : clock.resolve (.localTime noon) = .ok noon := rfl
  have hshown : clock.zone.toLocal (.ofSeconds 1773027000) =
      .ok (.on ⟨2026, 3, 8, by decide⟩ ⟨23, 30, 0, by decide⟩) := by decide +kernel
  have hvalue : wording clock (.localTime noon) (instant? 1773027000) =
      .ok "Tomorrow at 11:30 PM".toList := by decide +kernel
  have hbounds : window clock (.localTime noon) (some "tomorrow".toList) =
      .ok ⟨1772946000, 1773028799⟩ := by decide +kernel
  obtain ⟨words, hwords, _, ⟨w, hw, hholds⟩, _⟩ :=
    wording_agrees_with_windows hnow (by decide) (by decide) hshown
  cases hvalue.symm.trans hwords
  cases hbounds.symm.trans hw
  exact ⟨hvalue, _, hbounds, (hholds (by decide)).mp (by decide)⟩

end Agenda.DueDate
