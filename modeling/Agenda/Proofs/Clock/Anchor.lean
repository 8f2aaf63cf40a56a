import Agenda.Clock.Anchor
import Agenda.Proofs.Clock.Turn
import Mathlib

/-!
What an anchor is taken to be. A count of seconds and a local time of another place that mean one
instant come to the same local time, but only the count knows of a second pass. So an anchor that
means a whole second comes to a local time with that second, or to its first pass.
-/

namespace Agenda.Clock

open Calendar

namespace LocalTime

/-- The same date and time on the first pass. -/
def firstPass (t : LocalTime) : LocalTime := { t with again := false }

theorem firstPass_of_not_again {t : LocalTime} (h : t.again = false) : t.firstPass = t := by
  cases t
  cases h
  rfl

end LocalTime

/-- A count of whole seconds is the instant of as many seconds. -/
theorem ofCount_ofInt (n : Int) : Instant.ofCount (.ofInt n) = .ok (.ofSeconds n) := by
  have hnearest : Number.nearest 0 = 0 := by decide
  have hround : Number.roundHalfEven 0 1 = 0 := by decide
  apply congrArg Except.ok
  unfold Instant.ofRat Instant.ofSeconds
  simp [Zone.truncate_intCast, hnearest, hround]

namespace WallClock

variable {clock : WallClock} {e : Int} {now : LocalTime}

theorem resolve_counted (hnow : clock.zone.toLocal (.ofSeconds e) = .ok now) :
    clock.resolve (.counted (.ofInt e)) = .ok now := by
  unfold resolve
  dsimp only
  rw [ofCount_ofInt]
  exact hnow

/-- A local time of another place is brought to the local clock through universal time. What comes
of it is always a first pass. -/
theorem resolve_elsewhere (hnow : clock.zone.toLocal (.ofSeconds e) = .ok now)
    (hyear : 2 ≤ now.date.year ∧ now.date.year ≤ 9998) {t : LocalTime} {microsAhead : Int}
    (ht : t.instantAhead microsAhead = .ofSeconds e) :
    clock.resolve (.elsewhere t microsAhead) = .ok now.firstPass := by
  obtain ⟨hreading, _⟩ := Zone.toLocal_spec hnow
  obtain ⟨hday, _, _, _, hfirst⟩ := Zone.ofReading_spec hreading
  have hbefore := Date.inCalendar_add hyear (-1) (by omega)
  have hafter := Date.inCalendar_add hyear 1 (by omega)
  have hstandard := clock.zone.standard_bounds
  have hoffset := clock.zone.offset_cases e
  have hcalendar : InCalendar (e / 86400) := by
    rw [inCalendar_iff] at hbefore hafter ⊢
    unfold Zone.wall at hday
    omega
  obtain ⟨universal, huniversal⟩ :=
    Zone.exists_ofReading ((Zone.inSpan_iff e).mpr hcalendar) 0 false
  obtain ⟨_, hsecond, hmicro, _, _⟩ := Zone.ofReading_spec huniversal
  unfold resolve
  dsimp only
  rw [ht, Zone.seconds_ofSeconds, Zone.fraction_ofSeconds, huniversal]
  change clock.zone.firstPass universal.reading universal.micro = _
  rw [Zone.firstPass, hsecond, hmicro]
  exact hfirst

/-- The anchor means a whole second. -/
def Denotes (clock : WallClock) (e : Int) : Anchor → Prop
  | .present => Instant.ofCount clock.seconds = .ok (.ofSeconds e)
  | .counted seconds => Instant.ofCount seconds = .ok (.ofSeconds e)
  | .elsewhere t microsAhead => t.instantAhead microsAhead = .ofSeconds e
  | .localTime t => t.micro = 0 ∧ clock.zone.toCount t = .ok (e : Rat)

theorem denotes_counted : Denotes clock e (.counted (.ofInt e)) := ofCount_ofInt e

/-- The local time that a local time of another place comes to is what the clock shows at the
second. -/
private theorem exists_toLocal_of_elsewhere {t : LocalTime} {microsAhead : Int}
    (ht : t.instantAhead microsAhead = .ofSeconds e)
    (hnow : clock.resolve (.elsewhere t microsAhead) = .ok now)
    (hyear : 2 ≤ now.date.year ∧ now.date.year ≤ 9998) :
    ∃ shown, clock.zone.toLocal (.ofSeconds e) = .ok shown ∧ shown.date = now.date := by
  obtain ⟨universal, huniversal, hlocal⟩ := ok_of_bind hnow
  rw [ht, Zone.seconds_ofSeconds] at huniversal
  rw [Zone.firstPass, (Zone.ofReading_spec huniversal).2.1] at hlocal
  have hday := (Zone.ofReading_spec hlocal).1
  have hbefore := Date.inCalendar_add hyear (-2) (by omega)
  have hcalendar := now.date.inCalendar_dayNumber
  rw [inCalendar_iff] at hbefore hcalendar
  obtain ⟨shown, hshown⟩ :=
    Zone.exists_toLocal (z := clock.zone) (u := e) (by omega) (by omega)
  refine ⟨shown, hshown, Date.eq_of_dayNumber_eq ?_⟩
  rw [Zone.dayNumber_toLocal hshown, hday]

/-- The local time of an anchor that means a whole second has that second, or it is the first pass
of one that has. -/
theorem Denotes.exists_toCount {anchor : Anchor} (h : Denotes clock e anchor)
    (hnow : clock.resolve anchor = .ok now) (hyear : 2 ≤ now.date.year ∧ now.date.year ≤ 9998) :
    ∃ t : LocalTime, t.date = now.date ∧ t.micro = 0 ∧ clock.zone.toCount t = .ok (e : Rat) ∧
      (now = t ∨ now = t.firstPass ∧ clock.zone.toLocal (.ofSeconds e) = .ok t) := by
  have hcounted : ∀ {t}, clock.zone.toLocal (.ofSeconds e) = .ok t → t.date = now.date →
      t.micro = 0 ∧ clock.zone.toCount t = .ok (e : Rat) := by
    intro t ht hdate
    exact ⟨(Zone.ofReading_spec (Zone.toLocal_spec ht).1).2.2.1,
      Zone.toCount_toLocal ht (hdate ▸ hyear)⟩
  cases anchor with
  | present =>
      unfold resolve at hnow
      dsimp only at hnow
      rw [show Instant.ofCount clock.seconds = .ok (.ofSeconds e) from h] at hnow
      obtain ⟨hmicro, hcount⟩ := hcounted hnow rfl
      exact ⟨now, rfl, hmicro, hcount, Or.inl rfl⟩
  | counted seconds =>
      unfold resolve at hnow
      dsimp only at hnow
      rw [show Instant.ofCount seconds = .ok (.ofSeconds e) from h] at hnow
      obtain ⟨hmicro, hcount⟩ := hcounted hnow rfl
      exact ⟨now, rfl, hmicro, hcount, Or.inl rfl⟩
  | elsewhere there microsAhead =>
      obtain ⟨t, ht, hdate⟩ := exists_toLocal_of_elsewhere h hnow hyear
      obtain ⟨hmicro, hcount⟩ := hcounted ht hdate
      have hfirst := resolve_elsewhere ht (hdate ▸ hyear) h
      exact ⟨t, hdate, hmicro, hcount, Or.inr ⟨Except.ok.inj (hnow.symm.trans hfirst), ht⟩⟩
  | localTime t =>
      obtain rfl := Except.ok.inj hnow
      exact ⟨t, rfl, h.1, h.2, Or.inl rfl⟩

end WallClock

end Agenda.Clock
