import Agenda.Clock.Zone
import Agenda.Proofs.Calendar.Dates
import Mathlib

/-!
How the readings of a local clock follow the seconds. The clocks are changed once in spring and once
in autumn, early in the night. So every midnight, and every reading from three in the morning on, is
shown exactly once: before it the clock shows less, and after it more.
-/

namespace Agenda.Clock

open Calendar

theorem Zone.yearOf_eq_iff (second year : Int) :
    Zone.yearOf second = year ↔
      yearStart year ≤ second / 86400 ∧ second / 86400 < yearStart (year + 1) :=
  year_ofDayNumber_iff _ _

/-- A change comes on a day of one week of its month. -/
theorem Change.wall_eq (change : Change) (year : Int) :
    ∃ day, change.wall year = 86400 * day + change.second ∧
      yearStart year + daysBeforeMonth year change.month + 7 * ((change.week : Int) - 1) ≤ day ∧
      day ≤ yearStart year + daysBeforeMonth year change.month +
        7 * ((change.week : Int) - 1) + 6 := by
  unfold Change.wall
  dsimp only
  rw [dayNumberOf_eq]
  refine ⟨_, rfl, by omega, by omega⟩

/-- Changes of different months come on different days. -/
theorem Change.wall_lt {a b : Change} (hmonths : 1 ≤ a.month ∧ a.month < b.month ∧ b.month ≤ 12)
    (ha : a.week ≤ 4) (hb : 1 ≤ b.week) (year : Int) :
    a.wall year - a.second + 86400 ≤ b.wall year - b.second := by
  obtain ⟨day, hday, _, hlate⟩ := a.wall_eq year
  obtain ⟨later, hlater, hearly, _⟩ := b.wall_eq year
  have hapart := daysBeforeMonth_add_le_of_lt year hmonths.1 hmonths.2.1 hmonths.2.2
  omega

namespace Zone

/-- Moments of which each year has one, between one and two in the morning. -/
def IsYearly (moment : Int → Int) : Prop :=
  ∀ year, ∃ day, yearStart year ≤ day ∧ day < yearStart (year + 1) ∧
    86400 * day + 3600 ≤ moment year ∧ moment year ≤ 86400 * day + 7200

/-- Readings of a time of day that no change of the clocks comes near: midnight, and from three in
the morning on. -/
def IsCalm (reading : Int) : Prop := reading % 86400 = 0 ∨ 10800 ≤ reading % 86400

private theorem isYearly_wall {change : Change} (hmonth : 1 ≤ change.month ∧ change.month ≤ 12)
    (hweek : 1 ≤ change.week ∧ change.week ≤ 4) {shift : Int}
    (hsecond : 3600 ≤ change.second - shift ∧ change.second - shift ≤ 7200) :
    IsYearly fun year => change.wall year - shift := by
  intro year
  obtain ⟨day, hwall, hfirst, hlast⟩ := change.wall_eq year
  have hmonthEnd := daysBeforeMonth_le year hmonth.1 hmonth.2
  refine ⟨day, by omega, ?_, ?_, ?_⟩
  · rw [yearStart_succ]
    omega
  · dsimp only
    omega
  · dsimp only
    omega

section Calm

variable {moment : Int → Int} {r v : Int}

/-- Within the hour before a calm reading, no yearly moment of its year comes. -/
private theorem yearly_same_year (h : IsYearly moment) (hr : IsCalm r)
    (hv : r - 3600 ≤ v) (hvr : v ≤ r) (hsame : yearOf v = yearOf r) :
    moment (yearOf v) ≤ v ↔ moment (yearOf r) ≤ r := by
  obtain ⟨day, _, _, hafter, hbefore⟩ := h (yearOf r)
  rw [hsame]
  unfold IsCalm at hr
  omega

/-- At the turn of the year the moments of the old year are past and those of the new one are to
come. -/
private theorem yearly_other_year (h : IsYearly moment) (hv : r - 3600 ≤ v) (hvr : v ≤ r)
    (hother : yearOf v ≠ yearOf r) :
    moment (yearOf v) ≤ v ∧ r < moment (yearOf r) := by
  obtain ⟨hvStart, hvStop⟩ := (yearOf_eq_iff v _).mp rfl
  obtain ⟨hrStart, hrStop⟩ := (yearOf_eq_iff r _).mp rfl
  have hstop : yearStart (yearOf v + 1) ≤ r / 86400 := by
    by_contra hbefore
    exact hother ((yearOf_eq_iff r _).mpr ⟨by omega, by omega⟩).symm
  have hstart : v / 86400 < yearStart (yearOf r) := by
    by_contra hafter
    exact hother ((yearOf_eq_iff v _).mpr ⟨by omega, by omega⟩)
  obtain ⟨old, _, hold, _, hpast⟩ := h (yearOf v)
  obtain ⟨new, hnew, _, hahead, _⟩ := h (yearOf r)
  constructor
  · omega
  · omega

end Calm

/-- A span from one moment to a later one, or the time outside such a span, as the moments that
have passed. -/
private theorem span_eq_xor {start stop now : Int} :
    (start < stop → (decide (start ≤ now) && decide (now < stop)) =
      ((decide (start ≤ now) ^^ decide (stop ≤ now)) ^^ false)) ∧
    (stop ≤ start → (decide (now < stop) || decide (start ≤ now)) =
      ((decide (start ≤ now) ^^ decide (stop ≤ now)) ^^ true)) := by
  by_cases hstart : start ≤ now <;> by_cases hstop : stop ≤ now <;>
    simp [hstart, hstop] <;> omega

/-- Summer in terms of the readings that the clocks would show without it. -/
theorem isSummer_of_changes {z : Zone} {start stop : Change}
    (h : z.summer? = some (start, stop)) (u : Int) :
    z.isSummer u =
      if start.wall (yearOf (u + z.standard)) < stop.wall (yearOf (u + z.standard)) - 3600 then
        decide (start.wall (yearOf (u + z.standard)) ≤ u + z.standard) &&
          decide (u + z.standard < stop.wall (yearOf (u + z.standard)) - 3600)
      else
        decide (u + z.standard < stop.wall (yearOf (u + z.standard)) - 3600) ||
          decide (start.wall (yearOf (u + z.standard)) ≤ u + z.standard) := by
  unfold isSummer
  rw [h]
  dsimp only
  generalize start.wall (yearOf (u + z.standard)) = a
  generalize stop.wall (yearOf (u + z.standard)) = b
  have hbegins : (a - z.standard ≤ u) = (a ≤ u + z.standard) := by
    apply propext
    omega
  have hends : (u < b - (z.standard + 3600)) = (u + z.standard < b - 3600) := by
    apply propext
    omega
  have horder : (a - z.standard < b - (z.standard + 3600)) = (a < b - 3600) := by
    apply propext
    omega
  simp only [hbegins, hends, horder]

/-- The summer of a zone in terms of the readings that its clocks would show without summers: it
starts and ends once a year, the one always before the other. -/
private theorem isSummer_eq (z : Zone) :
    (∀ u, z.isSummer u = false) ∨ ∃ (start stop : Int → Int) (south : Bool),
      IsYearly start ∧ IsYearly stop ∧ ∀ u, z.isSummer u =
        ((decide (start (yearOf (u + z.standard)) ≤ u + z.standard) ^^
          decide (stop (yearOf (u + z.standard)) ≤ u + z.standard)) ^^ south) := by
  cases z with
  | utc => exact Or.inl fun _ => rfl
  | ahead0530 => exact Or.inl fun _ => rfl
  | behind0330 => exact Or.inl fun _ => rfl
  | eastAmerica =>
      refine Or.inr ⟨fun year => (⟨3, 2, 7200⟩ : Change).wall year - 0,
        fun year => (⟨11, 1, 7200⟩ : Change).wall year - 3600, false,
        isYearly_wall (by decide) (by decide) (by decide),
        isYearly_wall (by decide) (by decide) (by decide), ?_⟩
      intro u
      have horder : ∀ year, (⟨3, 2, 7200⟩ : Change).wall year <
          (⟨11, 1, 7200⟩ : Change).wall year - 3600 := by
        intro year
        have hapart := Change.wall_lt (a := ⟨3, 2, 7200⟩) (b := ⟨11, 1, 7200⟩) (by decide)
          (by decide) (by decide) year
        dsimp only at hapart
        omega
      rw [isSummer_of_changes rfl, if_pos (horder _), span_eq_xor.1 (horder _)]
      simp only [Int.sub_zero]
  | eastAustralia =>
      refine Or.inr ⟨fun year => (⟨10, 1, 7200⟩ : Change).wall year - 0,
        fun year => (⟨4, 1, 10800⟩ : Change).wall year - 3600, true,
        isYearly_wall (by decide) (by decide) (by decide),
        isYearly_wall (by decide) (by decide) (by decide), ?_⟩
      intro u
      have horder : ∀ year, (⟨4, 1, 10800⟩ : Change).wall year - 3600 ≤
          (⟨10, 1, 7200⟩ : Change).wall year := by
        intro year
        have hapart := Change.wall_lt (a := ⟨4, 1, 10800⟩) (b := ⟨10, 1, 7200⟩) (by decide)
          (by decide) (by decide) year
        dsimp only at hapart
        omega
      rw [isSummer_of_changes rfl, if_neg (not_lt.mpr (horder _)), span_eq_xor.2 (horder _)]
      simp only [Int.sub_zero]

/-- The clocks are changed between minutes. -/
theorem offset_startOfMinute (z : Zone) (u : Int) : z.offset (u - u % 60) = z.offset u := by
  have hstandard : z.standard % 60 = 0 := by cases z <;> rfl
  have hsummer : z.isSummer (u - u % 60) = z.isSummer u := by
    cases h : z.summer? with
    | none => rw [isSummer, isSummer, h]
    | some changes =>
        obtain ⟨start, stop⟩ := changes
        have hseconds : start.second % 60 = 0 ∧ stop.second % 60 = 0 := by
          cases z <;> cases h <;> exact ⟨rfl, rfl⟩
        have hyear : yearOf (u - u % 60 + z.standard) = yearOf (u + z.standard) := by
          apply congrArg fun day => (Civil.ofDayNumber day).year
          omega
        obtain ⟨day, hstart, _⟩ := start.wall_eq (yearOf (u + z.standard))
        obtain ⟨day', hstop, _⟩ := stop.wall_eq (yearOf (u + z.standard))
        rw [isSummer_of_changes h, isSummer_of_changes h, hyear]
        have hbegun : (start.wall (yearOf (u + z.standard)) ≤ u - u % 60 + z.standard) =
            (start.wall (yearOf (u + z.standard)) ≤ u + z.standard) := by
          apply propext
          omega
        have hended : (u - u % 60 + z.standard < stop.wall (yearOf (u + z.standard)) - 3600) =
            (u + z.standard < stop.wall (yearOf (u + z.standard)) - 3600) := by
          apply propext
          omega
        simp only [hbegun, hended]
  rw [offset, offset, hsummer]

/-- Within the hour before a calm reading it is summer throughout or not at all, by the readings of
standard time. -/
theorem isSummer_before_calm (z : Zone) {r v : Int} (hr : IsCalm r) (hv : r - 3600 ≤ v)
    (hvr : v ≤ r) :
    z.isSummer (v - z.standard) = z.isSummer (r - z.standard) := by
  rcases z.isSummer_eq with hnone | ⟨start, stop, south, hstart, hstop, hsummer⟩
  · rw [hnone, hnone]
  · rw [hsummer, hsummer, Int.sub_add_cancel, Int.sub_add_cancel]
    by_cases hsame : yearOf v = yearOf r
    · simp only [yearly_same_year hstart hr hv hvr hsame, yearly_same_year hstop hr hv hvr hsame]
    · obtain ⟨hstartPast, hstartAhead⟩ := yearly_other_year hstart hv hvr hsame
      obtain ⟨hstopPast, hstopAhead⟩ := yearly_other_year hstop hv hvr hsame
      simp [hstartPast, hstopPast, not_le.mpr hstartAhead, not_le.mpr hstopAhead]

/-- The clock shows a reading at one second only: before that it shows less, and after it more. -/
structure ShowsOnce (z : Zone) (reading u : Int) : Prop where
  wall_eq : z.wall u = reading
  wall_lt : ∀ v, v < u → z.wall v < reading
  lt_wall : ∀ v, u < v → reading < z.wall v

/-- Calm readings are shown once. -/
theorem exists_showsOnce (z : Zone) {r : Int} (hr : IsCalm r) : ∃ u, z.ShowsOnce r u := by
  have hcalm := fun v hv hvr => z.isSummer_before_calm (v := v) hr hv hvr
  cases hsummer : z.isSummer (r - z.standard) with
  | false =>
      refine ⟨r - z.standard, ?_, ?_, ?_⟩
      · rw [wall, offset, if_neg (by simp [hsummer])]
        omega
      · intro v hv
        rw [wall, offset]
        split_ifs with hv'
        · by_contra hlate
          have hsame := hcalm (v + z.standard) (by omega) (by omega)
          rw [Int.add_sub_cancel, hv', hsummer] at hsame
          cases hsame
        · omega
      · intro v hv
        rw [wall, offset]
        split_ifs <;> omega
  | true =>
      have hearlier := hcalm (r - 3600) (by omega) (by omega)
      rw [hsummer] at hearlier
      refine ⟨r - 3600 - z.standard, ?_, ?_, ?_⟩
      · rw [wall, offset, if_pos hearlier]
        omega
      · intro v hv
        rw [wall, offset]
        split_ifs <;> omega
      · intro v hv
        rw [wall, offset]
        split_ifs with hv'
        · omega
        · by_contra hearly
          have hsame := hcalm (v + z.standard) (by omega) (by omega)
          rw [Int.add_sub_cancel, hsummer] at hsame
          exact hv' hsame

namespace ShowsOnce

variable {z : Zone} {reading u : Int}

theorem le_iff (h : z.ShowsOnce reading u) (v : Int) : u ≤ v ↔ reading ≤ z.wall v := by
  constructor
  · intro huv
    rcases eq_or_lt_of_le huv with rfl | hlt
    · exact le_of_eq h.wall_eq.symm
    · exact le_of_lt (h.lt_wall v hlt)
  · intro hle
    by_contra hlt
    exact absurd (h.wall_lt v (not_le.mp hlt)) (not_lt.mpr hle)

theorem ge_iff (h : z.ShowsOnce reading u) (v : Int) : v ≤ u ↔ z.wall v ≤ reading := by
  constructor
  · intro hvu
    rcases eq_or_lt_of_le hvu with rfl | hlt
    · exact le_of_eq h.wall_eq
    · exact le_of_lt (h.wall_lt v hlt)
  · intro hle
    by_contra hlt
    exact absurd (h.lt_wall v (not_le.mp hlt)) (not_lt.mpr hle)

theorem unique (h : z.ShowsOnce reading u) {v : Int} (hv : z.wall v = reading) : v = u :=
  le_antisymm ((h.ge_iff v).mpr (le_of_eq hv)) ((h.le_iff v).mpr (le_of_eq hv.symm))

/-- The second before a reading that is shown once shows the reading before it, if that is shown
once as well. -/
theorem pred {u' : Int} (h : z.ShowsOnce reading u) (h' : z.ShowsOnce (reading - 1) u') :
    u' = u - 1 := by
  have hbefore := (h'.ge_iff u').mp le_rfl
  have hnot : ¬ u ≤ u' := by
    rw [h.le_iff]
    omega
  have hpred := h.wall_lt (u - 1) (by omega)
  have hle := (h'.ge_iff (u - 1)).mpr (by omega)
  omega

end ShowsOnce

end Zone

end Agenda.Clock
