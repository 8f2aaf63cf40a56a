import Agenda.Proofs.Clock.LocalTime
import Mathlib

/-!
The hour that a clock shows twice. A clock that is put back in autumn has been ahead by an hour for
days, and it stays as it then is for days. So of two readings that are equal and an hour apart, the
first comes before the turn and the second after it, and around the turn every reading has the
second that its side of the turn gives it.
-/

namespace Agenda.Clock

open Calendar

namespace Zone

/-- The clock shows a reading at two seconds. -/
def ShowsTwice (z : Zone) (reading : Int) : Prop :=
  ∃ u v, u < v ∧ z.wall u = reading ∧ z.wall v = reading

/-- The clock is put back by an hour at a second: three days before it are in summer, and three days
from then on are not. The hour that is shown again is one of the night. -/
structure PutsBack (z : Zone) (turn : Int) : Prop where
  before : ∀ v, turn - 259200 ≤ v → v < turn → z.offset v = z.standard + 3600
  after : ∀ v, turn ≤ v → v ≤ turn + 259200 → z.offset v = z.standard
  at_night : (turn + z.standard) % 86400 = 3600 ∨ (turn + z.standard) % 86400 = 7200

/-- The end of a summer lies well within its year, and well after its start or before that of the
next one. -/
private theorem end_of_summer {z : Zone} {start stop : Change} (h : z.summer? = some (start, stop))
    (year : Int) :
    86400 * yearStart year + 345600 ≤ stop.wall year - 3600 ∧
      stop.wall year + 345600 ≤ 86400 * yearStart (year + 1) ∧
      (if start.month < stop.month then start.wall year + 345600 ≤ stop.wall year
        else stop.wall year + 345600 ≤ start.wall year) ∧
      ((stop.wall year - 3600) % 86400 = 3600 ∨ (stop.wall year - 3600) % 86400 = 7200) := by
  obtain ⟨day, hstart, hstartEarly, hstartLate⟩ := start.wall_eq year
  obtain ⟨day', hstop, hstopEarly, hstopLate⟩ := stop.wall_eq year
  rw [yearStart_succ]
  cases z with
  | utc => cases h
  | ahead0530 => cases h
  | behind0330 => cases h
  | eastAmerica =>
      cases h
      have hapart := daysBeforeMonth_add_le_of_lt year (a := 3) (b := 11) (by decide) (by decide)
        (by decide)
      have hend : daysBeforeMonth year 11 + 31 ≤ yearLength year :=
        daysBeforeMonth_le year (by decide) (by decide)
      rw [if_pos (by decide)]
      dsimp only at *
      omega
  | eastAustralia =>
      cases h
      have hapart := daysBeforeMonth_add_le_of_lt year (a := 4) (b := 10) (by decide) (by decide)
        (by decide)
      have hbegin := daysBeforeMonth_add_le_of_lt year (a := 1) (b := 4) (by decide) (by decide)
        (by decide)
      have hend : daysBeforeMonth year 4 + 31 ≤ yearLength year :=
        daysBeforeMonth_le year (by decide) (by decide)
      rw [if_neg (by decide)]
      dsimp only at *
      omega

private theorem isSummer_iff {z : Zone} {start stop : Change}
    (h : z.summer? = some (start, stop)) {year v : Int} (hyear : yearOf (v + z.standard) = year) :
    z.isSummer v = true ↔
      if start.month < stop.month then
        start.wall year ≤ v + z.standard ∧ v + z.standard < stop.wall year - 3600
      else v + z.standard < stop.wall year - 3600 ∨ start.wall year ≤ v + z.standard := by
  obtain ⟨_, _, hapart, _⟩ := end_of_summer h year
  rw [isSummer_of_changes h, hyear]
  by_cases hmonths : start.month < stop.month
  · rw [if_pos hmonths] at hapart ⊢
    rw [if_pos (by omega)]
    simp
  · rw [if_neg hmonths] at hapart ⊢
    rw [if_neg (by omega)]
    simp

/-- In summer and up to three days later not: between the two the clock is put back. -/
private theorem exists_turn {z : Zone} {start stop : Change}
    (h : z.summer? = some (start, stop)) {u v : Int} (huv : u ≤ v ∧ v ≤ u + 259200)
    (hbefore : z.isSummer u = true) (hafter : ¬ z.isSummer v = true) :
    ∃ year, u + z.standard < stop.wall year - 3600 ∧ stop.wall year - 3600 ≤ v + z.standard := by
  obtain ⟨year, hyear⟩ : ∃ year, yearOf (v + z.standard) = year := ⟨_, rfl⟩
  obtain ⟨year', hyear'⟩ : ∃ year, yearOf (u + z.standard) = year := ⟨_, rfl⟩
  obtain ⟨hbegins, _, hapart, _⟩ := end_of_summer h year
  obtain ⟨_, hends, _, _⟩ := end_of_summer h year'
  have hin := (yearOf_eq_iff _ _).mp hyear
  have hin' := (yearOf_eq_iff _ _).mp hyear'
  rw [isSummer_iff h hyear] at hafter
  rw [isSummer_iff h hyear'] at hbefore
  have hsame : year' = year := by
    by_contra hother
    -- the turn of the year is three days away from neither end of a summer
    have hnew : yearStart (year' + 1) ≤ (v + z.standard) / 86400 := by
      by_contra hold
      exact hother (year_unique (n := (v + z.standard) / 86400) (by omega) (by omega) hin.1 hin.2)
    have hold : (u + z.standard) / 86400 < yearStart year := by
      by_contra hnew
      exact hother (year_unique (n := (u + z.standard) / 86400) hin'.1 hin'.2 (by omega)
        (by omega))
    split_ifs at hafter hbefore <;> omega
  subst hsame
  refine ⟨year', ?_⟩
  split_ifs at hafter hbefore hapart <;> omega

/-- A clock is put back at the end of a summer. -/
private theorem putsBack_end {z : Zone} {start stop : Change}
    (h : z.summer? = some (start, stop)) (year : Int) :
    z.PutsBack (stop.wall year - 3600 - z.standard) := by
  obtain ⟨hbegins, hends, hapart, hnight⟩ := end_of_summer h year
  have hyear : ∀ v, stop.wall year - 262800 ≤ v + z.standard →
      v + z.standard ≤ stop.wall year + 255600 → yearOf (v + z.standard) = year := by
    intro v hv hv'
    exact (yearOf_eq_iff _ _).mpr ⟨by omega, by omega⟩
  constructor
  case before =>
    intro v hv hv'
    have hsummer : z.isSummer v = true := by
      rw [isSummer_iff h (hyear v (by omega) (by omega))]
      split_ifs at hapart ⊢ <;> omega
    rw [offset, if_pos hsummer]
  case after =>
    intro v hv hv'
    have hwinter : ¬ z.isSummer v = true := by
      rw [isSummer_iff h (hyear v (by omega) (by omega))]
      split_ifs at hapart ⊢ <;> omega
    rw [offset, if_neg hwinter]
  case at_night =>
    rw [Int.sub_add_cancel]
    exact hnight

/-- Where a clock is ahead as in summer, and up to three days later is not, it has been put back in
between. -/
theorem exists_putsBack {z : Zone} {u v : Int} (huv : u ≤ v ∧ v ≤ u + 259200)
    (hu : z.offset u = z.standard + 3600) (hv : z.offset v = z.standard) :
    ∃ turn, z.PutsBack turn ∧ u < turn ∧ turn ≤ v := by
  have hbefore : z.isSummer u = true := by
    by_contra hwinter
    rw [offset, if_neg hwinter] at hu
    omega
  have hafter : ¬ z.isSummer v = true := by
    intro hsummer
    rw [offset, if_pos hsummer] at hv
    omega
  cases hsummer : z.summer? with
  | none =>
      rw [isSummer, hsummer] at hbefore
      cases hbefore
  | some changes =>
      obtain ⟨start, stop⟩ := changes
      obtain ⟨year, hearlier, hlater⟩ := exists_turn hsummer huv hbefore hafter
      exact ⟨_, putsBack_end hsummer year, by omega, by omega⟩

/-- Where a clock shows what it has shown an hour before, it has been put back in between. -/
theorem exists_putsBack_of_repeated {z : Zone} {u : Int} (h : z.wall (u - 3600) = z.wall u) :
    ∃ turn, z.PutsBack turn ∧ turn ≤ u ∧ u < turn + 3600 := by
  have hbefore := z.offset_cases (u - 3600)
  have hafter := z.offset_cases u
  unfold wall at h
  obtain ⟨turn, hturns, hlt, hle⟩ :=
    exists_putsBack (z := z) (u := u - 3600) (v := u) (by omega) (by omega) (by omega)
  exact ⟨turn, hturns, hle, by omega⟩

/-- Of the two candidates of a reading the one is meant whose offset holds a day away as well. -/
private theorem secondOf_of_steady {z : Zone} {reading ahead : Int} {again : Bool}
    (hinner : IsInner reading again) (hshown : z.offset (reading - ahead) = ahead)
    (hsteady : ∀ other, other = z.standard ∨ other = z.standard + 3600 →
      z.offset (if again then reading - other + 86400 else reading - other - 86400) = ahead) :
    z.secondOf reading again = .ok (reading - ahead) := by
  obtain ⟨probe, hprobe, heq⟩ := secondOf_eq (z := z) hinner
  have hagree := hsteady _ (z.offset_cases reading)
  rw [← hprobe] at hagree
  rw [heq, Except.ok.injEq]
  have hwall : z.wall (reading - ahead) = reading := by
    rw [wall, hshown]
    omega
  dsimp only
  rw [hagree]
  by_cases hsame : z.offset reading = ahead
  · rw [hsame, if_pos ⟨hwall, rfl⟩]
  · rw [if_neg (fun h => hsame h.2)]
    by_cases hfirst : z.wall (reading - z.offset reading) = reading
    · rw [if_pos hfirst, if_pos hwall]
    · -- the first candidate is in the other offset, which is the one sought
      have hother : z.offset (reading - z.offset reading) = ahead := by
        have hcases := z.offset_cases (reading - z.offset reading)
        have hcases' := z.offset_cases reading
        have hcases'' := z.offset_cases (reading - ahead)
        unfold wall at hfirst
        omega
      rw [if_neg hfirst, hother, if_pos hwall]

namespace PutsBack

variable {z : Zone} {turn reading : Int}

/-- Up to the end of the hour that is shown twice, the first pass of a reading is in summer. -/
theorem secondOf_before (h : z.PutsBack turn) (hinner : IsInner reading false)
    (hday : turn + z.standard - 86400 ≤ reading) (hend : reading < turn + z.standard + 3600) :
    z.secondOf reading false = .ok (reading - (z.standard + 3600)) := by
  apply secondOf_of_steady hinner (h.before _ (by omega) (by omega))
  intro other hother
  rw [if_neg (by simp)]
  exact h.before _ (by omega) (by omega)

/-- The second pass of a reading is not in summer. -/
theorem secondOf_again (h : z.PutsBack turn) (hinner : IsInner reading true)
    (hstart : turn + z.standard ≤ reading) (hend : reading < turn + z.standard + 3600) :
    z.secondOf reading true = .ok (reading - z.standard) := by
  apply secondOf_of_steady hinner (h.after _ (by omega) (by omega))
  intro other hother
  rw [if_pos rfl]
  exact h.after _ (by omega) (by omega)

/-- From the end of the hour that is shown twice, a reading is no more in summer. -/
theorem secondOf_after (h : z.PutsBack turn) (hinner : IsInner reading false)
    (hstart : turn + z.standard + 3600 ≤ reading) (hday : reading ≤ turn + z.standard + 86400) :
    z.secondOf reading false = .ok (reading - z.standard) := by
  obtain ⟨u, hu, hcases, hshows⟩ := secondOf_spec (z := z) hinner
  have hwall := hshows (reading - z.standard) (by
    rw [wall, h.after _ (by omega) (by omega)]
    omega)
  rcases hcases with rfl | rfl
  · exact hu
  · rw [wall, h.after _ (by omega) (by omega)] at hwall
    omega

/-- The readings of the hour are shown twice, and around the turn no others. -/
theorem showsTwice_iff (h : z.PutsBack turn) (hday : turn + z.standard - 86400 ≤ reading)
    (hday' : reading ≤ turn + z.standard + 86400) :
    z.ShowsTwice reading ↔
      turn + z.standard ≤ reading ∧ reading < turn + z.standard + 3600 := by
  constructor
  · rintro ⟨u, v, huv, hu, hv⟩
    have hu' := z.offset_cases u
    have hv' := z.offset_cases v
    have hbefore := h.before (reading - z.standard) (by omega)
    have hafter := h.after (reading - z.standard - 3600)
    unfold wall at hu hv
    have hu'' : u = reading - z.standard - 3600 := by omega
    have hv'' : v = reading - z.standard := by omega
    subst hu'' hv''
    constructor
    · by_contra hlt
      have := hbefore (by omega)
      omega
    · by_contra hge
      have := hafter (by omega) (by omega)
      omega
  · rintro ⟨hstart, hend⟩
    refine ⟨reading - (z.standard + 3600), reading - z.standard, by omega, ?_, ?_⟩
    · rw [wall, h.before _ (by omega) (by omega)]
      omega
    · rw [wall, h.after _ (by omega) (by omega)]
      omega

end PutsBack

/-- A clock that shows a reading twice is put back where the second pass begins. -/
theorem ShowsTwice.exists_putsBack {z : Zone} {reading : Int} (h : z.ShowsTwice reading) :
    ∃ turn, z.PutsBack turn ∧ turn + z.standard ≤ reading ∧
      reading < turn + z.standard + 3600 := by
  obtain ⟨u, v, huv, hu, hv⟩ := h
  have hu' := z.offset_cases u
  have hv' := z.offset_cases v
  unfold wall at hu hv
  obtain ⟨turn, hturns, hlt, hle⟩ :=
    Zone.exists_putsBack (z := z) (u := u) (v := v) (by omega) (by omega) (by omega)
  exact ⟨turn, hturns, by omega, by omega⟩

section Passes

variable {z : Zone} {u : Int}

/-- A reading means the second at which the clock shows it, or the first of two. -/
theorem secondOf_wall (hinner : IsInner (z.wall u) false) :
    z.secondOf (z.wall u) false =
      .ok (if z.wall (u - 3600) = z.wall u then u - 3600 else u) := by
  split_ifs with hrepeated
  · obtain ⟨turn, hturns, hle, hlt⟩ := exists_putsBack_of_repeated hrepeated
    have hoffset := hturns.after u hle (by omega)
    unfold wall at hinner ⊢
    rw [hoffset] at hinner ⊢
    rw [hturns.secondOf_before hinner (by omega) (by omega), Except.ok.injEq]
    omega
  · obtain ⟨second, hsecond, hcases, hshows⟩ := secondOf_spec hinner
    have hwall := hshows u rfl
    have hoffset := z.offset_cases u
    rw [hsecond, Except.ok.injEq]
    by_contra hne
    have hother : second = u - 3600 ∨ second = u + 3600 := by
      unfold wall at hcases
      omega
    rcases hother with rfl | rfl
    · exact hrepeated hwall
    · -- the second pass is an hour later, and the first one is meant
      obtain ⟨turn, hturns, hle, hlt⟩ := exists_putsBack_of_repeated (z := z) (u := u + 3600)
        (by rw [Int.add_sub_cancel, hwall])
      have hsummer := hturns.before u (by omega) (by omega)
      unfold wall at hinner hsecond
      rw [hsummer] at hinner hsecond
      rw [hturns.secondOf_before hinner (by omega) (by omega), Except.ok.injEq] at hsecond
      omega

variable {t : LocalTime} (h : z.toLocal (.ofSeconds u) = .ok t)
include h

/-- A local time is a second pass exactly if the clock has shown the same an hour before. -/
theorem again_toLocal_iff : t.again = true ↔ z.wall (u - 3600) = z.wall u := by
  rw [(toLocal_spec h).2, and_iff_right_iff_imp]
  intro hrepeated
  obtain ⟨turn, hturns, hle, hlt⟩ := exists_putsBack_of_repeated hrepeated
  have hbefore := hturns.before (u - 86400) (by omega) (by omega)
  have hafter := hturns.after u hle (by omega)
  unfold wall
  omega

/-- The count of seconds of a local time is that of the second at which the clock shows it. -/
theorem toCount_toLocal (hyear : 2 ≤ t.date.year ∧ t.date.year ≤ 9998) : z.toCount t = .ok u := by
  obtain ⟨_, hreading, hmicro, _⟩ := ofReading_spec (toLocal_spec h).1
  have hrepeated := again_toLocal_iff h
  have hinner := isInner_reading hyear t.again
  rw [hreading] at hinner
  apply toCount_eq hmicro
  rw [hreading]
  cases hagain : t.again with
  | false =>
      rw [hagain] at hrepeated hinner
      rw [secondOf_wall hinner, if_neg fun hsame => nomatch hrepeated.mpr hsame]
  | true =>
      rw [hagain] at hrepeated hinner
      obtain ⟨turn, hturns, hle, hlt⟩ := exists_putsBack_of_repeated (hrepeated.mp rfl)
      have hoffset := hturns.after u hle (by omega)
      unfold wall at hinner ⊢
      rw [hoffset] at hinner ⊢
      rw [hturns.secondOf_again hinner (by omega) (by omega), Int.add_sub_cancel]

end Passes

end Zone

end Agenda.Clock
