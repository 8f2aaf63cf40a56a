import Agenda.DueDate.Wording
import Agenda.Proofs.Clock.Epoch
import Agenda.Proofs.DueDate.Alike
import Agenda.Proofs.Phrase.Beginning
import Agenda.Proofs.Phrase.Resolve
import Mathlib

/-!
Which due dates can be shown. A phrase is only taken for a second that has a local time, but an
explicit date is taken for its second wherever that lies. So the failures are those of explicit
dates at the ends of the calendar: of the first local day, which has no second, and of universal
times at which the clock shows no day of the calendar or the first one.
-/

namespace Agenda.DueDate

open Calendar Clock Text

/-- A due instant has words if it has a local time and there is a local time now. -/
theorem wording_ok_iff (clock : WallClock) (anchor : Anchor) (due? : Option Instant) :
    (∃ words, wording clock anchor due? = .ok words) ↔
      ∀ due, due? = some due →
        (∃ time, clock.zone.toLocal due = .ok time) ∧ ∃ now, clock.resolve anchor = .ok now := by
  cases due? with
  | none => simp [wording, pure, Except.pure]
  | some due =>
      constructor
      · rintro ⟨words, hwords⟩ _ hdue
        obtain rfl := Option.some.inj hdue
        obtain ⟨time, htime, hrest⟩ := ok_of_bind hwords
        obtain ⟨now, hnow, _⟩ := ok_of_bind hrest
        exact ⟨⟨time, htime⟩, now, hnow⟩
      · intro h
        obtain ⟨⟨time, htime⟩, now, hnow⟩ := h due rfl
        exact ⟨_, by rw [wording, htime, hnow]; rfl⟩

section Stamp

variable {z : Zone} {stamp : Stamp}

/-- An explicit date has a second unless it is the first local day. -/
theorem Stamp.second_error_iff (z : Zone) (stamp : Stamp) (fault : Fault) :
    stamp.second z = .error fault ↔
      stamp.universal = false ∧ stamp.date = Zone.firstDay ∧ fault = .yearOutside 0 := by
  unfold Stamp.second
  cases huniversal : stamp.universal with
  | true => simp
  | false =>
      rw [if_neg (by simp)]
      by_cases hfirst : stamp.date = Zone.firstDay
      · rw [hfirst, Zone.dayStart_firstDay, Except.error.injEq]
        exact ⟨fun h => ⟨rfl, rfl, h.symm⟩, fun h => h.2.2.symm⟩
      · obtain ⟨u, hu, _⟩ := Zone.exists_dayStart_of_ne z hfirst
        rw [hu]
        exact iff_of_false nofun fun h => hfirst h.2.1

/-- The second of a local date can be shown. -/
theorem Stamp.isShown_of_local (hlocal : stamp.universal = false) {second : Int}
    (h : stamp.second z = .ok second) : z.IsShown second := by
  have hfirst : stamp.date ≠ Zone.firstDay := by
    intro hdate
    have hfails := (Stamp.second_error_iff z stamp _).mpr ⟨hlocal, hdate, rfl⟩
    rw [h] at hfails
    cases hfails
  obtain ⟨u, hu, hshows⟩ := Zone.exists_dayStart_of_ne z hfirst
  have hlate := Zone.dayNumber_of_ne_firstDay hfirst
  have hcalendar := stamp.date.inCalendar_dayNumber
  unfold Stamp.second at h
  rw [if_neg (by simp [hlocal]), hu, Except.ok.injEq] at h
  rw [inCalendar_iff] at hcalendar
  rw [← h, Zone.IsShown, hshows.wall_eq]
  omega

end Stamp

section

variable {clock : WallClock} {anchor : Anchor} {now : LocalTime}
  (hnow : clock.resolve anchor = .ok now)
include hnow

/-- A due second has words exactly if it has a local time. The second 0, which stands for no date,
has one as well. -/
theorem wording_second_iff (second : Int) :
    (∃ words, wording clock anchor (instant? second) = .ok words) ↔
      clock.zone.IsShown second := by
  rw [wording_ok_iff, ← Zone.exists_toLocal_iff]
  by_cases hzero : second = 0
  · rw [instant?, if_pos hzero, hzero]
    exact iff_of_true nofun (Zone.exists_toLocal_epoch clock.zone)
  · rw [instant?, if_neg hzero]
    exact ⟨fun h => (h _ rfl).1, fun h _ hdue => Option.some.inj hdue ▸ ⟨h, now, hnow⟩⟩

variable (hyear : 2 ≤ now.date.year ∧ now.date.year ≤ 9998) {text : Text}
  (hlength : text.length ≤ maxDigits)
include hyear hlength

private theorem phrase_answers :
    Phrase.Answers clock.zone (Phrase.resolve clock anchor (some (trim text))) := by
  have hshort : (trim text).length ≤ maxDigits := (length_trim_le text).trans hlength
  rw [Phrase.resolve_eq_firstRule hnow]
  exact Phrase.firstRule_answers (Phrase.rules_answer hshort hyear)

/-- Only an explicit date for the first local day fails. -/
theorem resolve_error_iff (fault : Fault) : resolve clock anchor (some text) = .error fault ↔
    fault = .yearOutside 0 ∧ ∃ stamp, stamp? (trim text) = some stamp ∧
      stamp.universal = false ∧ stamp.date = Zone.firstDay := by
  rw [resolve_eq]
  cases stamp? (trim text) with
  | none =>
      obtain ⟨found, hfound, _⟩ := phrase_answers hnow hyear hlength
      dsimp only
      rw [hfound]
      refine iff_of_false nofun ?_
      rintro ⟨_, stamp, hread, _⟩
      cases hread
  | some stamp =>
      dsimp only
      rw [map_eq_error_iff, stamp.second_error_iff]
      constructor
      · rintro ⟨hlocal, hfirst, hfault⟩
        exact ⟨hfault, stamp, rfl, hlocal, hfirst⟩
      · rintro ⟨hfault, read, hread, hlocal, hfirst⟩
        obtain rfl := Option.some.inj hread
        exact ⟨hlocal, hfirst, hfault⟩

/-- What is no explicit universal time is only resolved to a second that can be shown. -/
theorem isShown_of_resolve (hlocal : ∀ stamp ∈ stamp? (trim text), stamp.universal = false)
    {second : Int} (h : resolve clock anchor (some text) = .ok (some second)) :
    clock.zone.IsShown second := by
  rw [resolve_eq] at h
  cases hstamp : stamp? (trim text) with
  | none =>
      obtain ⟨found, hfound, hshown⟩ := phrase_answers hnow hyear hlength
      rw [hstamp] at h
      dsimp only at h
      rw [hfound] at h
      exact (Zone.exists_toLocal_iff _ _).mp (hshown second (Except.ok.inj h))
  | some stamp =>
      rw [hstamp] at h
      obtain ⟨u, hu, hsome⟩ := ok_of_map h
      obtain rfl := Option.some.inj hsome
      exact Stamp.isShown_of_local (hlocal stamp hstamp) hu

/-- Accepted due dates can be shown, except at the ends of the calendar. From any local day of the
years 2 to 9998, a text that is short enough for its numerals to be read fails to be resolved exactly
if it is an explicit date for the first local day. A second that it is resolved to has words, unless
the text is an explicit universal time at which the clock shows the first day of the calendar or none
of it. -/
theorem resolve_shown_iff :
    (∀ fault, resolve clock anchor (some text) = .error fault ↔
      fault = .yearOutside 0 ∧ ∃ stamp, stamp? (trim text) = some stamp ∧
        stamp.universal = false ∧ stamp.date = Zone.firstDay) ∧
    ∀ second, resolve clock anchor (some text) = .ok (some second) →
      ((∃ words, wording clock anchor (instant? second) = .ok words) ↔
        ∀ stamp, stamp? (trim text) = some stamp → stamp.universal = true →
          clock.zone.IsShown second) := by
  refine ⟨resolve_error_iff hnow hyear hlength, fun second hsecond => ?_⟩
  rw [wording_second_iff hnow]
  constructor
  · intro hshown _ _ _
    exact hshown
  · intro hshown
    -- a text for a second that is not shown cannot be a universal time
    by_contra hnot
    apply hnot
    refine isShown_of_resolve hnow hyear hlength (fun stamp hstamp => ?_) hsecond
    by_contra huniversal
    exact hnot (hshown stamp hstamp (by simpa using huniversal))

end

/-- Ahead of universal time the last second of the local calendar comes before that of the universal
one, and has words. -/
theorem resolve_shown_last_second :
    let clock : WallClock := ⟨.ahead0530, .ofInt 0⟩
    let noon : LocalTime := .on ⟨9998, 12, 31, by decide⟩ ⟨12, 0, 0, by decide⟩
    resolve clock (.localTime noon) (some "9999-12-31T18:29:59Z".toList) =
        .ok (some 253402280999) ∧
      ∃ words, wording clock (.localTime noon) (instant? 253402280999) = .ok words := by
  intro clock noon
  have hvalue : resolve clock (.localTime noon) (some "9999-12-31T18:29:59Z".toList) =
      .ok (some 253402280999) := by decide +kernel
  have hnow : clock.resolve (.localTime noon) = .ok noon := rfl
  have hlength : "9999-12-31T18:29:59Z".toList.length ≤ maxDigits := by decide
  obtain ⟨_, hwords⟩ := resolve_shown_iff hnow (by decide) hlength
  refine ⟨hvalue, (hwords _ hvalue).mpr ?_⟩
  intro _ _ _
  exact ⟨by decide, by decide⟩

/-- The first day of the calendar cannot be resolved. Its universal midnight can, and so can the last
universal second, but neither has words where the clock shows that midnight or is ahead of that
second. -/
theorem resolve_unshown :
    let utc : WallClock := ⟨.utc, .ofInt 0⟩
    let ahead : WallClock := ⟨.ahead0530, .ofInt 0⟩
    resolve utc .present (some "0001-01-01".toList) = .error (.yearOutside 0) ∧
      resolve utc .present (some "0001-01-01T00:00:00Z".toList) = .ok (some (-62135596800)) ∧
      wording utc .present (instant? (-62135596800)) = .error (.yearOutside 0) ∧
      resolve ahead .present (some "9999-12-31T23:59:59Z".toList) = .ok (some 253402300799) ∧
      wording ahead .present (instant? 253402300799) = .error (.yearOutside 10000) := by
  decide +kernel

end Agenda.DueDate
