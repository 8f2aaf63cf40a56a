import Agenda.DueDate.Window
import Agenda.Proofs.Clock.LocalTime
import Mathlib

/-!
Named date windows mean local days. Their bounds are seconds at which the local clock shows the
start or the last second of a day once, so a second lies between them exactly if its local day lies
between theirs, however long the days are.
-/

namespace Agenda.DueDate

open Calendar Clock

/-- The window goes from the start of a first day, if there is one, to the last second of a last
day. -/
structure Window.Covers (w : Window) (z : Zone) (first : Option Int) (last : Int) : Prop where
  start_shown : ∀ day ∈ first, z.ShowsOnce (86400 * day) w.start
  start_open : first = none → w.start = 0
  stop_shown : z.ShowsOnce (86400 * last + 86399) w.stop

namespace Window.Covers

variable {w : Window} {z : Zone} {first : Option Int} {last : Int}

/-- The last second of a day is never the instant that stands for an open side. -/
theorem stop_ne_zero (h : w.Covers z first last) : w.stop ≠ 0 := by
  have hmod := h.stop_shown.mod_eq
  omega

theorem isUnbounded_eq_false (h : w.Covers z first last) : w.isUnbounded = false := by
  simp [isUnbounded, h.stop_ne_zero]

theorem start_le_stop (h : w.Covers z first last) (horder : ∀ day ∈ first, day ≤ last)
    (hstart : w.start ≠ 0) : w.start ≤ w.stop := by
  cases first with
  | none => exact absurd (h.start_open rfl) hstart
  | some day =>
      have hshown := h.start_shown day rfl
      have hday := horder day rfl
      rw [h.stop_shown.ge_iff, hshown.wall_eq]
      omega

/-- A due second lies in the window exactly if its local day is none before the first and none
after the last, unless the first day starts at the instant that stands for an open side. -/
theorem holds_iff (h : w.Covers z first last) (hfirst : ∀ day ∈ first, z.wall 0 ≠ 86400 * day)
    {due : Int} (hdue : due ≠ 0) :
    w.holds (some due) = true ↔
      (∀ day ∈ first, day ≤ z.wall due / 86400) ∧ z.wall due / 86400 ≤ last := by
  have hstop : due ≤ w.stop ↔ z.wall due / 86400 ≤ last := by
    rw [h.stop_shown.ge_iff]
    omega
  have hstart : (w.start ≠ 0 → w.start ≤ due) ↔ ∀ day ∈ first, day ≤ z.wall due / 86400 := by
    cases first with
    | none => simp [h.start_open rfl]
    | some day =>
        have hshown := h.start_shown day rfl
        have hne : w.start ≠ 0 := by
          intro hzero
          have hwall := hshown.wall_eq
          rw [hzero] at hwall
          exact hfirst day rfl hwall
        rw [forall_prop_of_true hne, hshown.le_iff]
        simp only [Option.mem_def, Option.some.injEq, forall_eq']
        omega
  rw [← hstart, ← hstop, holds, if_neg hdue]
  have hnonzero := h.stop_ne_zero
  split_ifs with hbefore hafter
  · simp only [false_iff]
    omega
  · simp only [false_iff]
    omega
  · simp only [true_iff]
    omega

/-- A window that does not start at the instant that stands for an open side opens at no such
midnight. -/
theorem wall_zero_ne (h : w.Covers z first last) (hstart : w.start ≠ 0) :
    ∀ day ∈ first, z.wall 0 ≠ 86400 * day := by
  intro day hday hwall
  exact hstart ((h.start_shown day hday).unique hwall).symm

/-- Even a window that opens at that instant holds all seconds of its days. -/
theorem holds_of_day (h : w.Covers z first last) {due : Int} (hdue : due ≠ 0)
    (hday : (∀ day ∈ first, day ≤ z.wall due / 86400) ∧ z.wall due / 86400 ≤ last) :
    w.holds (some due) = true := by
  by_cases hstart : w.start = 0
  · have hstop : due ≤ w.stop := by
      rw [h.stop_shown.ge_iff]
      omega
    have hlate : ¬ w.stop < due := by omega
    simp [holds, hdue, hstart, hlate]
  · exact (h.holds_iff (h.wall_zero_ne hstart) hdue).mpr hday

end Window.Covers

namespace Period

/-- The day whose midnight opens the window of a period, seen from today. -/
def Opens (today day : Int) : Period → Prop
  | .today => day = today
  | .tomorrow => day = today + 1
  | .thisWeek => day = today
  | .nextWeek => IsNext 0 today day
  | .overdue => False

/-- The days that a period means, seen from today: this week goes up to the first Sunday after
today, and next week starts with the first Monday after today. -/
def Admits (today day : Int) : Period → Prop
  | .today => day = today
  | .tomorrow => day = today + 1
  | .thisWeek => ∃ sunday, IsNext 6 today sunday ∧ today ≤ day ∧ day ≤ sunday
  | .nextWeek => ∃ monday, IsNext 0 today monday ∧ monday ≤ day ∧ day ≤ monday + 6
  | .overdue => day < today

theorem mem_all (period : Period) : period ∈ all := by
  cases period <;> simp [all]

theorem name_injective : Function.Injective name := by
  intro a b h
  revert h
  cases a <;> cases b <;> decide

theorem ofName?_eq_some_iff (raw : Text) (period : Period) :
    ofName? (some raw) = some period ↔ period.name = Text.lower (Text.trim raw) := by
  change (all.find? fun period => decide (period.name = _)) = some period ↔ _
  generalize Text.lower (Text.trim raw) = key
  constructor
  · intro h
    simpa using List.find?_some h
  · rintro rfl
    obtain ⟨found, hfound⟩ : ∃ found,
        (all.find? fun other => decide (other.name = period.name)) = some found :=
      Option.isSome_iff_exists.mp (List.find?_isSome.mpr ⟨period, mem_all period, by simp⟩)
    rw [hfound]
    exact congrArg some (name_injective (by simpa using List.find?_some hfound))

theorem ofName?_eq_none_iff (raw : Text) :
    ofName? (some raw) = none ↔ ∀ period : Period, period.name ≠ Text.lower (Text.trim raw) := by
  constructor
  · intro h period hname
    rw [(ofName?_eq_some_iff raw period).mpr hname] at h
    cases h
  · intro h
    by_contra hfound
    obtain ⟨period, hperiod⟩ := Option.ne_none_iff_exists'.mp hfound
    exact h period ((ofName?_eq_some_iff raw period).mp hperiod)

/-- The days from a first one, if there is one, to a last one are those that the period means. -/
structure Spans (period : Period) (today : Int) (first : Option Int) (last : Int) : Prop where
  opens : ∀ day ∈ first, period.Opens today day
  first_le_last : ∀ day ∈ first, day ≤ last
  admits_iff : ∀ day, period.Admits today day ↔ (∀ d ∈ first, d ≤ day) ∧ day ≤ last

section Spans

variable {today : Int}

theorem spans_today : Spans .today today (some today) today := by
  refine ⟨by simp [Opens], by simp, ?_⟩
  intro day
  simp only [Admits, Option.mem_def, Option.some.injEq, forall_eq']
  omega

theorem spans_tomorrow : Spans .tomorrow today (some (today + 1)) (today + 1) := by
  refine ⟨by simp [Opens], by simp, ?_⟩
  intro day
  simp only [Admits, Option.mem_def, Option.some.injEq, forall_eq']
  omega

theorem spans_thisWeek {sunday : Int} (h : IsNext 6 today sunday) :
    Spans .thisWeek today (some today) sunday := by
  refine ⟨by simp [Opens], by simpa using h.lt.le, ?_⟩
  intro day
  simp only [Admits, Option.mem_def, Option.some.injEq, forall_eq']
  constructor
  · rintro ⟨other, hother, hfrom, hto⟩
    rw [hother.unique h] at hto
    exact ⟨hfrom, hto⟩
  · rintro ⟨hfrom, hto⟩
    exact ⟨_, h, hfrom, hto⟩

theorem spans_nextWeek {monday : Int} (h : IsNext 0 today monday) :
    Spans .nextWeek today (some monday) (monday + 6) := by
  refine ⟨by simpa [Opens] using h, by simp, ?_⟩
  intro day
  simp only [Admits, Option.mem_def, Option.some.injEq, forall_eq']
  constructor
  · rintro ⟨other, hother, hfrom, hto⟩
    rw [hother.unique h] at hfrom hto
    exact ⟨hfrom, hto⟩
  · rintro ⟨hfrom, hto⟩
    exact ⟨_, h, hfrom, hto⟩

theorem spans_overdue : Spans .overdue today none (today - 1) := by
  refine ⟨by simp, by simp, ?_⟩
  intro day
  simp only [Admits, Option.mem_def, reduceCtorEq, false_implies, implies_true, true_and]
  omega

end Spans

/-- The bounds from the start of one day to the end of another. -/
private theorem covers_days {z : Zone} {first last : Date} (hfirst : first.IsInner)
    (hlast : last.IsInner) :
    ∃ start stop, z.dayStart first = .ok start ∧ z.dayEnd last = .ok stop ∧
      Window.Covers ⟨start, stop⟩ z (some first.dayNumber) last.dayNumber := by
  obtain ⟨start, hstart, hstartShown⟩ := z.exists_dayStart hfirst
  obtain ⟨stop, hstop, hstopShown⟩ := z.exists_dayEnd hlast
  refine ⟨start, stop, hstart, hstop, ?_, by simp, hstopShown⟩
  intro day hday
  obtain rfl := Option.some.inj hday
  exact hstartShown

/-- The bounds of what has gone by: the last second of yesterday comes right before today. -/
private theorem covers_before {z : Zone} {today : Date} {start : Int}
    (h : z.ShowsOnce (86400 * today.dayNumber) start) :
    Window.Covers ⟨0, start - 1⟩ z none (today.dayNumber - 1) := by
  obtain ⟨stop, hstop⟩ := z.exists_showsOnce (r := 86400 * today.dayNumber - 1)
    (by unfold Zone.IsCalm; omega)
  refine ⟨by simp, by simp, ?_⟩
  rw [show 86400 * (today.dayNumber - 1) + 86399 = 86400 * today.dayNumber - 1 by omega]
  exact h.pred hstop ▸ hstop

/-- The window of a period: it goes from midnight to midnight, and its days are those that the
period means. -/
theorem exists_window (z : Zone) {today : Date} (hyear : 2 ≤ today.year ∧ today.year ≤ 9998)
    (period : Period) :
    ∃ w first last, period.window z today = .ok w ∧ w.Covers z first last ∧
      Spans period today.dayNumber first last := by
  have htoday : today.IsInner := Date.isInner_of_near hyear 0 (by omega) (by omega)
  cases period with
  | today =>
      obtain ⟨start, stop, hstart, hstop, hcovers⟩ := covers_days (z := z) htoday htoday
      refine ⟨⟨start, stop⟩, _, _, ?_, hcovers, spans_today⟩
      rw [window, hstart, hstop]
      rfl
  | tomorrow =>
      obtain ⟨date, hdate, hnumber, hinner⟩ := Date.exists_addDays_near hyear 1 (by omega)
      obtain ⟨start, stop, hstart, hstop, hcovers⟩ := covers_days (z := z) hinner hinner
      refine ⟨⟨start, stop⟩, _, _, ?_, hcovers, hnumber ▸ spans_tomorrow⟩
      rw [window, hdate]
      simp only [bind, Except.bind, hstart, hstop]
      rfl
  | thisWeek =>
      have hdays := today.daysUntil_bounds sunday
      have hnext := today.isNext_daysUntil 6 (by decide)
      obtain ⟨last, hlast, hnumber, hinner⟩ :=
        Date.exists_addDays_near hyear (today.daysUntil sunday) (by omega)
      obtain ⟨start, stop, hstart, hstop, hcovers⟩ := covers_days (z := z) htoday hinner
      refine ⟨⟨start, stop⟩, _, _, ?_, hcovers, spans_thisWeek (hnumber ▸ hnext)⟩
      rw [window, hlast]
      simp only [bind, Except.bind, hstart, hstop]
      rfl
  | nextWeek =>
      have hdays := today.daysUntil_bounds 0
      have hnext := today.isNext_daysUntil 0 (by decide)
      obtain ⟨first, hfirst, hnumber, hinner⟩ :=
        Date.exists_addDays_near hyear (today.daysUntil 0) (by omega)
      obtain ⟨last, hlast, hlastNumber⟩ := Date.exists_addDays first 6 (by omega) (by
        rw [hnumber, Int.add_assoc]
        exact Date.inCalendar_add hyear _ (by omega))
      have hlastInner : last.IsInner :=
        Date.isInner_of_near hyear (today.daysUntil 0 + 6) (by omega) (by omega)
      obtain ⟨start, stop, hstart, hstop, hcovers⟩ := covers_days (z := z) hinner hlastInner
      refine ⟨⟨start, stop⟩, _, _, ?_, hcovers, ?_⟩
      · rw [window, hfirst]
        simp only [bind, Except.bind, hstart, hlast, hstop]
        rfl
      · rw [hlastNumber]
        exact spans_nextWeek (hnumber ▸ hnext)
  | overdue =>
      obtain ⟨start, hstart, hshown⟩ := z.exists_dayStart htoday
      refine ⟨⟨0, start - 1⟩, _, _, ?_, covers_before hshown, spans_overdue⟩
      rw [window, hstart]
      rfl

end Period

private theorem window_of_unknown {clock : WallClock} {anchor : Anchor} {name : Option Text}
    (h : Period.ofName? name = none) : window clock anchor name = .ok .everything := by
  unfold window
  rw [h]
  rfl

theorem window_of_period {clock : WallClock} {anchor : Anchor} {now : LocalTime}
    (hnow : clock.resolve anchor = .ok now) {name : Option Text} {period : Period}
    (h : Period.ofName? name = some period) :
    window clock anchor name = period.window clock.zone now.date := by
  unfold window
  rw [h]
  change (do period.window clock.zone (← clock.resolve anchor).date) = _
  rw [hnow]
  rfl

/-- Every name has a window, seen from a date that is not at an end of the calendar. -/
theorem exists_window {clock : WallClock} {anchor : Anchor} {now : LocalTime}
    (hnow : clock.resolve anchor = .ok now) (hyear : 2 ≤ now.date.year ∧ now.date.year ≤ 9998)
    (name : Option Text) : ∃ w, window clock anchor name = .ok w := by
  cases hperiod : Period.ofName? name with
  | none => exact ⟨_, window_of_unknown hperiod⟩
  | some period =>
      obtain ⟨w, _, _, hw, _⟩ := period.exists_window clock.zone hyear
      exact ⟨w, (window_of_period hnow hperiod).trans hw⟩

/-- Date windows mean local days. Every name has a window, which is open on both sides exactly if
the name, without outer blanks and in lowercase, is none of a period. The bounds of the others are
in order, and they hold exactly the due seconds of the days that the period means; only a window
that opens at the very instant that stands for an open side may hold others. -/
theorem window_means_days {clock : WallClock} {anchor : Anchor} {now : LocalTime}
    (hnow : clock.resolve anchor = .ok now) (hyear : 2 ≤ now.date.year ∧ now.date.year ≤ 9998)
    (name : Text) :
    ∃ w, window clock anchor (some name) = .ok w ∧
      (w.isUnbounded = true ↔ ∀ period : Period, period.name ≠ Text.lower (Text.trim name)) ∧
      (w.isUnbounded = false → w.start ≠ 0 → w.start ≤ w.stop) ∧
      ∀ period : Period, period.name = Text.lower (Text.trim name) →
        (∀ day, period.Opens now.date.dayNumber day → clock.zone.wall 0 ≠ 86400 * day) →
        ∀ (due : Int) (t : LocalTime), due ≠ 0 → clock.zone.toLocal (.ofSeconds due) = .ok t →
          (w.holds (some due) = true ↔ period.Admits now.date.dayNumber t.date.dayNumber) := by
  cases hperiod : Period.ofName? (some name) with
  | none =>
      have hunknown := (Period.ofName?_eq_none_iff name).mp hperiod
      refine ⟨.everything, window_of_unknown hperiod, iff_of_true rfl hunknown, ?_, ?_⟩
      · simp [Window.everything]
      · intro period hname
        exact absurd hname (hunknown period)
  | some found =>
      have hfound := (Period.ofName?_eq_some_iff name found).mp hperiod
      obtain ⟨w, first, last, hw, hcovers, hspans⟩ :=
        Period.exists_window clock.zone hyear found
      refine ⟨w, (window_of_period hnow hperiod).trans hw, ?_, ?_, ?_⟩
      · rw [hcovers.isUnbounded_eq_false]
        simp only [Bool.false_eq_true, false_iff, not_forall, not_not]
        exact ⟨found, hfound⟩
      · intro _ hstart
        exact hcovers.start_le_stop hspans.first_le_last hstart
      · intro period hname hmidnight due t hdue ht
        obtain rfl := Period.name_injective (hname.trans hfound.symm)
        rw [hcovers.holds_iff (fun day hday => hmidnight day (hspans.opens day hday)) hdue,
          Zone.dayNumber_toLocal ht, hspans.admits_iff]

/-- On the short day on which summer starts, half past eleven in the evening is still today. -/
theorem window_means_days_in_spring :
    let clock : WallClock := ⟨.eastAmerica, .ofInt 0⟩
    let noon : LocalTime := .on ⟨2026, 3, 8, by decide⟩ ⟨12, 0, 0, by decide⟩
    ∃ w, window clock (.localTime noon) (some " Today ".toList) = .ok w ∧
      w.holds (some 1773027000) = true := by
  intro clock noon
  have hnow : clock.resolve (.localTime noon) = .ok noon := rfl
  obtain ⟨w, hw, _, _, hdays⟩ := window_means_days hnow (by decide) " Today ".toList
  refine ⟨w, hw, (hdays .today (by decide) ?_ 1773027000
    (.on ⟨2026, 3, 8, by decide⟩ ⟨23, 30, 0, by decide⟩) (by decide) (by decide +kernel)).mpr rfl⟩
  intro day hday
  rw [show day = noon.date.dayNumber from hday]
  decide +kernel

end Agenda.DueDate
