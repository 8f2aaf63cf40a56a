import Agenda.Proofs.DueDate.Alike
import Agenda.Proofs.Phrase.Epoch
import Mathlib

/-!
Which due dates are the second 0, which stands for none. Besides the phrases that name the start of
1970 these are the explicit dates of its first day, as a universal midnight or where the local day
begins then.
-/

namespace Agenda

open Calendar Clock Text

namespace DueDate

/-- The first day of 1970, which has the number 0. -/
def epochDay : Date := ⟨1970, 1, 1, by decide⟩

/-- The explicit date is the start of 1970: midnight of its first day in universal time, or that day
where local and universal time are the same. -/
def Stamp.IsEpoch (z : Zone) (stamp : Stamp) : Prop :=
  stamp.date = epochDay ∧ if stamp.universal then stamp.time = .midnight else z = .utc

private theorem date_eq_epochDay_iff (date : Date) : date = epochDay ↔ date.dayNumber = 0 := by
  have hzero : epochDay.dayNumber = 0 := by decide
  constructor
  · rintro rfl
    exact hzero
  · intro h
    exact Date.eq_of_dayNumber_eq (h.trans hzero.symm)

theorem Stamp.second_epoch_iff (z : Zone) (stamp : Stamp) :
    stamp.second z = .ok 0 ↔ stamp.IsEpoch z := by
  unfold Stamp.second Stamp.IsEpoch
  rw [date_eq_epochDay_iff]
  by_cases huniversal : stamp.universal = true
  · have hinDay := stamp.time.inDay
    have hmidnight : stamp.time = .midnight ↔ stamp.time.seconds = 0 :=
      ⟨fun h => by rw [h]; rfl, fun h => TimeOfDay.eq_of_seconds_eq h⟩
    rw [if_pos huniversal, if_pos huniversal, hmidnight, Except.ok.injEq]
    unfold TimeOfDay.seconds
    omega
  · have hwall : z.wall 0 % 86400 = 0 ↔ z = .utc := by cases z <;> decide
    have hreading : (LocalTime.on stamp.date .midnight).reading =
        86400 * stamp.date.dayNumber + 0 := rfl
    have hbounds := z.wall_epoch_bounds
    rw [if_neg huniversal, if_neg huniversal, Zone.dayStart,
      Zone.toTimestamp_epoch_iff z rfl, hreading, ← hwall]
    omega

/-- The text is a due date at the start of 1970: an explicit one or, failing that, a phrase. -/
def NamesEpoch (z : Zone) (now : LocalTime) (text : Text) : Prop :=
  match stamp? (trim text) with
  | some stamp => stamp.IsEpoch z
  | none => Phrase.NamesEpoch z now (trim text)

section

variable {clock : WallClock} {anchor : Anchor} {now : LocalTime}
  (hnow : clock.resolve anchor = .ok now) (hyear : 2 ≤ now.date.year ∧ now.date.year ≤ 9998)
include hnow hyear

theorem phrase_epoch_iff (text : Text) :
    Phrase.resolve clock anchor (some text) = .ok (some 0) ↔
      Phrase.NamesEpoch clock.zone now text := by
  rw [Phrase.resolve_eq_firstRule hnow, Phrase.firstRule_epoch_iff hyear]

theorem timePhrase_epoch_iff (text : Text) :
    Phrase.resolveTime clock anchor (some text) = .ok (some 0) ↔
      Phrase.NamesEpochAsTime clock.zone now text := by
  rw [Phrase.resolveTime_eq_readTime hnow, Phrase.readTime_epoch_iff hyear]

theorem dueDate_epoch_iff (text : Text) :
    resolve clock anchor (some text) = .ok (some 0) ↔ NamesEpoch clock.zone now text := by
  unfold NamesEpoch
  rw [resolve_eq]
  cases stamp? (trim text) with
  | some stamp =>
      dsimp only
      rw [← stamp.second_epoch_iff]
      cases stamp.second clock.zone with
      | error cause => exact iff_of_false nofun nofun
      | ok second =>
          change Except.ok (some second) = _ ↔ _
          rw [Except.ok.injEq, Except.ok.injEq, Option.some.injEq]
  | none => exact phrase_epoch_iff hnow hyear (trim text)

end

end DueDate

end Agenda
