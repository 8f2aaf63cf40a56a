import Agenda.DueDate.Resolve
import Agenda.DueDate.Wording
import Agenda.Filter.Basic
import Agenda.Proofs.Phrase.Repeated
import Mathlib

/-!
One instant as two anchors: a count of seconds, and a local time of any other place. All that is
seen from the second is as seen from the first, except for the times of an hour that the clock shows
twice.
-/

namespace Agenda.DueDate

open Calendar Clock Phrase

section

variable {clock : WallClock} {now : LocalTime}

/-- Conditions depend on the date of today only. -/
private theorem allHold_firstPass (task : Task) (ps : List Predicate) :
    Filter.allHold clock now.firstPass task ps = Filter.allHold clock now task ps := by
  have hholds : ∀ p : Predicate, p.holds clock (.localTime now.firstPass) task =
      p.holds clock (.localTime now) task := by
    intro p
    cases p with
    | named kind value => cases kind <;> rfl
    | text needle => rfl
  induction ps with
  | nil => rfl
  | cons p rest ih =>
      unfold Filter.allHold
      rw [hholds, ih]

private theorem not_namesRepeated_of_allBlank {text : Text} (h : Text.AllBlank text) :
    ¬ NamesRepeated clock.zone now text := by
  rintro ⟨_, _, _, _, haccept, _⟩
  obtain ⟨_, c, more, htext, _⟩ := timeOfDay_accept haccept
  have hnil := Text.trimStart_allBlank_append h []
  rw [List.append_nil, htext] at hnil
  cases hnil

variable {e : Int} {t : LocalTime} {microsAhead : Int}

/-- A rule that minds the pass only for the times of a repeated hour does so from an anchor. -/
private theorem rule_anchors_iff {rule : Rule}
    (hrule : ∀ text, rule clock.zone now.firstPass text = rule clock.zone now text ↔
      ¬ NamesRepeated clock.zone now text) {anchor anchor' : Anchor}
    (hfirst : clock.resolve anchor = .ok now.firstPass) (hnow : clock.resolve anchor' = .ok now)
    (text : Text) :
    (match usable? (some text) with
      | none => return none
      | some text => do rule clock.zone (← clock.resolve anchor) text) =
        (match usable? (some text) with
          | none => return none
          | some text => do rule clock.zone (← clock.resolve anchor') text) ↔
      ¬ NamesRepeated clock.zone now text := by
  rw [hfirst, hnow]
  by_cases hblank : Text.isBlankText text = true
  · rw [show usable? (some text) = none from if_pos hblank]
    exact iff_of_true rfl (not_namesRepeated_of_allBlank ((Text.isBlankText_iff text).mp hblank))
  · rw [show usable? (some text) = some text from if_neg hblank]
    exact hrule text

/-- One instant as two anchors. A phrase means the same from both exactly if it does not name a time
of a repeated hour that the clock, on its second pass, has not gone by: the count of seconds knows of
the pass, and the other anchor does not. Due dates differ in their phrases only, and the words for a
due date, the windows and the filters do not differ at all. -/
theorem resolve_anchors_agree_iff (hnow : clock.zone.toLocal (.ofSeconds e) = .ok now)
    (hyear : 2 ≤ now.date.year ∧ now.date.year ≤ 9998)
    (ht : t.instantAhead microsAhead = .ofSeconds e) :
    (∀ text, Phrase.resolve clock (.elsewhere t microsAhead) (some text) =
        Phrase.resolve clock (.counted (.ofInt e)) (some text) ↔
          ¬ NamesRepeated clock.zone now text) ∧
    (∀ text, resolveTime clock (.elsewhere t microsAhead) (some text) =
        resolveTime clock (.counted (.ofInt e)) (some text) ↔
          ¬ NamesRepeated clock.zone now text) ∧
    (∀ text, resolve clock (.elsewhere t microsAhead) (some text) =
        resolve clock (.counted (.ofInt e)) (some text) ↔
          (stamp? (Text.trim text) = none → ¬ NamesRepeated clock.zone now (Text.trim text))) ∧
    (∀ due, wording clock (.elsewhere t microsAhead) due =
        wording clock (.counted (.ofInt e)) due) ∧
    (∀ name, window clock (.elsewhere t microsAhead) name =
        window clock (.counted (.ofInt e)) name) ∧
    ∀ (f : Filter) task, f.passes clock (.elsewhere t microsAhead) task =
      f.passes clock (.counted (.ofInt e)) task := by
  have hcounted := WallClock.resolve_counted hnow
  have helsewhere := WallClock.resolve_elsewhere hnow hyear ht
  have hphrase : ∀ text, Phrase.resolve clock (.elsewhere t microsAhead) (some text) =
      Phrase.resolve clock (.counted (.ofInt e)) (some text) ↔
        ¬ NamesRepeated clock.zone now text :=
    rule_anchors_iff (firstRule_firstPass_iff hnow hyear) helsewhere hcounted
  refine ⟨hphrase, rule_anchors_iff (readTime_firstPass_iff hnow hyear) helsewhere hcounted,
    ?_, ?_, ?_, ?_⟩
  · intro text
    unfold resolve
    by_cases hblank : Text.isBlankText text = true
    · have hnil := (Text.trim_eq_nil_iff text).mpr ((Text.isBlankText_iff text).mp hblank)
      rw [show usable? (some text) = none from if_pos hblank, hnil]
      exact iff_of_true rfl fun _ => not_namesRepeated_of_allBlank Text.AllBlank.nil
    · rw [show usable? (some text) = some text from if_neg hblank]
      dsimp only
      cases hstamp : stamp? (Text.trim text) with
      | none => simpa using hphrase (Text.trim text)
      | some stamp => simp
  · intro due
    unfold wording
    rw [hcounted, helsewhere]
    rfl
  · intro name
    unfold window
    rw [hcounted, helsewhere]
    rfl
  · intro f task
    unfold Filter.passes
    rw [hcounted, helsewhere]
    change (if f.isEmpty then _ else Filter.allHold clock now.firstPass task f.predicates) = _
    rw [allHold_firstPass]
    rfl

end

/-- On the second pass, an hour counted from now is the same from both anchors. -/
theorem resolve_anchors_agree_in_an_hour :
    let clock : WallClock := ⟨.eastAmerica, .ofInt 0⟩
    let there : LocalTime := .on ⟨2026, 11, 1, by decide⟩ ⟨6, 30, 0, by decide⟩
    resolve clock (.elsewhere there 0) (some "in 1 hour".toList) =
      resolve clock (.counted (.ofInt 1793514600)) (some "in 1 hour".toList) := by
  intro clock there
  have hnow : clock.zone.toLocal (.ofSeconds 1793514600) =
      .ok ⟨⟨2026, 11, 1, by decide⟩, ⟨1, 30, 0, by decide⟩, 0, true, by decide⟩ := by
    decide +kernel
  have hthere : there.instantAhead 0 = .ofSeconds 1793514600 := by decide +kernel
  obtain ⟨_, _, hresolve, _⟩ := resolve_anchors_agree_iff hnow (by decide) hthere
  refine (hresolve _).mpr fun _ => ?_
  rintro ⟨_, _, _, _, haccept, _⟩
  have hreject : timeOfDay (Text.trim "in 1 hour".toList) = .reject := by rfl
  rw [hreject] at haccept
  cases haccept

/-- Half past one for the second time, in the zone's own words and as a count of seconds. A quarter
to two is still to come for the former, and for the latter it has gone by on the first pass. -/
theorem resolve_anchors_differ :
    let clock : WallClock := ⟨.eastAmerica, .ofInt 0⟩
    let here : LocalTime := .on ⟨2026, 11, 1, by decide⟩ ⟨1, 30, 0, by decide⟩
    let microsAhead := -18000000000
    here.instantAhead microsAhead = .ofSeconds 1793514600 ∧
      Phrase.resolve clock (.elsewhere here microsAhead) (some "1:45am".toList) =
        .ok (some 1793511900) ∧
      Phrase.resolve clock (.counted (.ofInt 1793514600)) (some "1:45am".toList) =
        .ok (some 1793598300) := by
  decide +kernel

end Agenda.DueDate
