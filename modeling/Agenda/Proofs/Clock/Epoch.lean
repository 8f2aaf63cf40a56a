import Agenda.Proofs.Clock.LocalTime
import Mathlib

/-!
The second 0, the start of 1970, which stands for no date. No clock is changed near it, so a local
time lies at it exactly if it is what the clock shows then.
-/

namespace Agenda.Clock

open Calendar

namespace Zone

/-- The clock is not changed in the hour before a second nor in the hour after it. -/
structure IsSteadyAt (z : Zone) (u : Int) : Prop where
  before : z.offset (u - 3600) = z.offset u
  after : z.offset (u + 3600) = z.offset u

variable {z : Zone} {u : Int}

/-- A reading has a second around which the clock is not changed exactly if it is what the clock
shows then. -/
theorem secondOf_eq_iff (h : z.IsSteadyAt u)
    (hspan : -62135596800 + 108000 ≤ u ∧ u + 136800 < 253402300800) (reading : Int)
    (again : Bool) : z.secondOf reading again = .ok u ↔ reading = z.wall u := by
  obtain ⟨hbefore, hafter⟩ := h
  have hstandard := z.standard_bounds
  have hoffset := z.offset_cases u
  constructor
  · intro hsecond
    have hcases := secondOf_cases hsecond
    have hinner : IsInner reading again := ⟨by omega, by omega, fun _ => by omega⟩
    obtain ⟨u', hu', _, hshows⟩ := secondOf_spec (z := z) hinner
    obtain rfl : u = u' := Except.ok.inj (hsecond.symm.trans hu')
    -- of the two readings that can have this second, the clock shows one then and the other an hour
    -- before or after
    have hearlier := hshows (u - 3600)
    have hlater := hshows (u + 3600)
    unfold wall at hearlier hlater ⊢
    omega
  · intro hreading
    unfold wall at hreading
    have hinner : IsInner reading again := ⟨by omega, by omega, fun _ => by omega⟩
    obtain ⟨u', hu', hcases, hshows⟩ := secondOf_spec (z := z) hinner
    have hwall := hshows u (by rw [wall, hreading])
    have hearlier : u' = u - 3600 → z.offset u' = z.offset u := by
      rintro rfl
      exact hbefore
    have hlater : u' = u + 3600 → z.offset u' = z.offset u := by
      rintro rfl
      exact hafter
    have hsame : u' = u := by
      unfold wall at hwall
      omega
    rw [hu', hsame]

theorem isSteadyAt_epoch (z : Zone) : z.IsSteadyAt 0 := by
  constructor <;> cases z <;> decide

theorem isSteadyAt_dayBefore_epoch (z : Zone) : z.IsSteadyAt (-86400) := by
  constructor <;> cases z <;> decide

theorem wall_dayBefore_epoch (z : Zone) : z.wall (-86400) = z.wall 0 - 86400 := by
  cases z <;> decide

theorem wall_epoch_bounds (z : Zone) : -18000 ≤ z.wall 0 ∧ z.wall 0 ≤ 39600 := by
  have hstandard := z.standard_bounds
  have hoffset := z.offset_cases 0
  unfold wall
  omega

theorem toTimestamp_eq_iff (h : z.IsSteadyAt u)
    (hspan : -62135596800 + 108000 ≤ u ∧ u + 136800 < 253402300800) {t : LocalTime}
    (hmicro : t.micro = 0) : z.toTimestamp t = .ok u ↔ t.reading = z.wall u := by
  rw [← secondOf_eq_iff h hspan t.reading t.again]
  exact ⟨secondOf_of_toTimestamp hmicro, toTimestamp_eq hmicro⟩

/-- A local time lies at the start of 1970 exactly if the clock shows it then. -/
theorem toTimestamp_epoch_iff (z : Zone) {t : LocalTime} (hmicro : t.micro = 0) :
    z.toTimestamp t = .ok 0 ↔ t.reading = z.wall 0 :=
  toTimestamp_eq_iff z.isSteadyAt_epoch (by omega) hmicro

theorem toTimestamp_dayBefore_epoch_iff (z : Zone) {t : LocalTime} (hmicro : t.micro = 0) :
    z.toTimestamp t = .ok (-86400) ↔ t.reading + 86400 = z.wall 0 := by
  rw [toTimestamp_eq_iff z.isSteadyAt_dayBefore_epoch (by omega) hmicro, wall_dayBefore_epoch]
  omega

theorem exists_toLocal_epoch (z : Zone) : ∃ t, z.toLocal (.ofSeconds 0) = .ok t := by
  have hwall := z.wall_epoch_bounds
  exact exists_toLocal (by omega) (by omega)

end Zone

end Agenda.Clock
