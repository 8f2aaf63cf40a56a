import Agenda.Proofs.Clock.Turn
import Mathlib

/-!
Zones whose clocks are never changed. There seconds and readings always lie equally far apart, so
local times follow one another as their seconds do.
-/

namespace Agenda.Clock

open Calendar

namespace Zone

variable {z : Zone} (hsteady : z.summer? = none)
include hsteady

theorem offset_of_steady (u : Int) : z.offset u = z.standard := by
  rw [offset, isSummer, hsteady]
  rfl

theorem toTimestamp_of_steady {t : LocalTime} {second : Int} (hmicro : t.micro = 0)
    (h : z.toTimestamp t = .ok second) : second = t.reading - z.standard := by
  obtain ⟨v, hv⟩ := exists_offset_of_secondOf (secondOf_of_toTimestamp hmicro h)
  rw [hv, offset_of_steady hsteady]

end Zone

/-- The local time of a second on a clock that is never changed, on a day that is a year away from
the ends of the calendar. -/
structure ShowsSteadily (z : Zone) (e : Int) (t : LocalTime) : Prop where
  steady : z.summer? = none
  reading_eq : t.reading = e + z.standard
  count : z.toCount t = .ok e
  year : 2 ≤ t.date.year ∧ t.date.year ≤ 9998

theorem showsSteadily_toLocal {z : Zone} (hsteady : z.summer? = none) {e : Int} {t : LocalTime}
    (h : z.toLocal (.ofSeconds e) = .ok t) (hyear : 2 ≤ t.date.year ∧ t.date.year ≤ 9998) :
    ShowsSteadily z e t := by
  obtain ⟨_, hreading, _⟩ := Zone.ofReading_spec (Zone.toLocal_spec h).1
  refine ⟨hsteady, ?_, Zone.toCount_toLocal h hyear, hyear⟩
  rw [hreading, Zone.wall, Zone.offset_of_steady hsteady]

/-- The day of an earlier second is no later one. -/
theorem ShowsSteadily.day_le {z : Zone} {e e' : Int} {t t' : LocalTime} (h : ShowsSteadily z e t)
    (h' : ShowsSteadily z e' t') (he : e ≤ e') : t.date.dayNumber ≤ t'.date.dayNumber := by
  have hreading := h.reading_eq
  have hreading' := h'.reading_eq
  have hin := t.reading_bounds
  have hin' := t'.reading_bounds
  omega

end Agenda.Clock
