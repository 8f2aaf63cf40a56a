import Agenda.Proofs.DueDate.Window
import Agenda.Proofs.Filter.Canonical
import Agenda.Proofs.Filter.Selection
import Mathlib

/-!
Conditions one after another in a token mean all of them. The reading goes on behind a condition as
it would have begun there, and away from the ends of the calendar no condition can fail. So it does
not matter whether tasks go through two filters at once or one after the other.
-/

namespace Agenda.Filter

open Clock Text

/-- The tasks that pass a filter, in order. -/
def kept (clock : WallClock) (anchor : Anchor) (f : Filter) (tasks : List Task) :
    Except Fault (List Task) := do
  return (← f.select clock anchor tasks).map Prod.snd

/-- The tasks that pass the filter of a token, in order. The token is read first. -/
def keptByToken (clock : WallClock) (anchor : Anchor) (token : Text) (tasks : List Task) :
    Except Fault (List Task) := do
  (← parse token).kept clock anchor tasks

section Selection

variable {clock : WallClock} {now : LocalTime}

private theorem exists_holds (clock : WallClock)
    (hyear : 2 ≤ now.date.year ∧ now.date.year ≤ 9998) (task : Task) (p : Predicate) :
    ∃ met, p.holds clock (.localTime now) task = .ok met := by
  match p with
  | .named .date name =>
      have hnow : clock.resolve (.localTime now) = .ok now := rfl
      obtain ⟨w, hw⟩ := DueDate.exists_window hnow hyear (some name)
      exact ⟨_, by rw [Predicate.holds, Predicate.dateHolds, hw]; rfl⟩
  | .named .priority level => exact ⟨_, rfl⟩
  | .named .status state => exact ⟨_, rfl⟩
  | .text needle => exact ⟨_, rfl⟩

/-- At a time, the conditions are met by the tasks as told. -/
private def Tells (clock : WallClock) (now : LocalTime) (met : Task → Predicate → Bool) : Prop :=
  ∀ task (p : Predicate), p.holds clock (.localTime now) task = .ok (met task p)

variable {met : Task → Predicate → Bool}

private theorem allHold_eq (hmet : Tells clock now met) (task : Task) (ps : List Predicate) :
    allHold clock now task ps = .ok (ps.all (met task)) := by
  induction ps with
  | nil => rfl
  | cons p rest ih =>
      rw [allHold, hmet task p]
      cases hp : met task p with
      | false => simp [bind, Except.bind, pure, Except.pure, hp]
      | true => simp [bind, Except.bind, ih, hp]

private theorem passes_eq (hmet : Tells clock now met) (f : Filter) (task : Task) :
    f.passes clock (.localTime now) task = .ok (f.predicates.all (met task)) := by
  unfold passes
  by_cases hempty : f.isEmpty = true
  · rw [if_pos hempty, List.isEmpty_iff.mp hempty]
    rfl
  · rw [if_neg hempty]
    exact allHold_eq hmet task f.predicates

private theorem selectFrom_tasks (hmet : Tells clock now met) (f : Filter) (i : Nat)
    (tasks : List Task) :
    (selectFrom clock now f i tasks).map (·.map Prod.snd) =
      .ok (tasks.filter fun task => f.predicates.all (met task)) := by
  induction tasks generalizing i with
  | nil => rfl
  | cons task rest ih =>
      have hrest := ih (i + 1)
      rw [selectFrom, passes_eq hmet]
      cases hmore : selectFrom clock now f (i + 1) rest with
      | error fault =>
          rw [hmore] at hrest
          cases hrest
      | ok more =>
          rw [hmore] at hrest
          have htasks := Except.ok.inj hrest
          cases hkeep : f.predicates.all (met task) with
          | false => simp [bind, Except.bind, pure, Except.pure, Except.map, hkeep, htasks]
          | true => simp [bind, Except.bind, pure, Except.pure, Except.map, hkeep, htasks]

/-- Away from the ends of the calendar, a filter keeps the tasks that meet each of its conditions,
which each task does or does not by itself. -/
theorem exists_kept {anchor : Anchor} (hnow : clock.resolve anchor = .ok now)
    (hyear : 2 ≤ now.date.year ∧ now.date.year ≤ 9998) :
    ∃ met : Task → Predicate → Bool, ∀ (f : Filter) (tasks : List Task),
      f.kept clock anchor tasks =
        .ok (tasks.filter fun task => f.predicates.all (met task)) := by
  choose met hmet using fun task p => exists_holds clock hyear task p
  refine ⟨met, ?_⟩
  intro f tasks
  have hselect : f.select clock anchor tasks = selectFrom clock now f 0 tasks := by
    rw [select, hnow]
    rfl
  rw [kept, hselect, ← selectFrom_tasks hmet f 0 tasks]
  cases selectFrom clock now f 0 tasks <;> rfl

end Selection

/-- Reading goes on behind brackets as it would have begun there. -/
private theorem parse_append {conditions : List (FilterKind × Text)}
    (h : ∀ c ∈ conditions, IsHeld c.2) (t : Text) :
    parse (brackets conditions ++ t) =
      (parse t).map (Filter.and ⟨conditionsOf conditions⟩) := by
  rw [parse_eq, parse_eq, pieces_brackets_append fun c hc => (h c hc).1, directives_brackets h,
    List.map_append, trim_allBlank_append remnants_brackets]
  cases directives (pieces t) with
  | error fault => rfl
  | ok found =>
      cases hlast : remainder (trim ((pieces t).map Piece.remnant)) with
      | error fault => simp [Except.map, bind, Except.bind]
      | ok last => simp [Except.map, bind, Except.bind, pure, Except.pure, Filter.and]

/-- Brackets in front of a token add their conditions to those of the token, and the token is
refused exactly as it is without them. To keep the tasks that pass is then to keep those that pass
the brackets and of these the ones that pass the token, or the other way round. -/
theorem parse_brackets_append {conditions : List (FilterKind × Text)}
    (hheld : ∀ c ∈ conditions, IsHeld c.2) (t : Text) :
    parse (brackets conditions ++ t) = (parse t).map (Filter.and ⟨conditionsOf conditions⟩) ∧
      ∀ {clock : WallClock} {anchor : Anchor} {now : LocalTime},
        clock.resolve anchor = .ok now → 2 ≤ now.date.year ∧ now.date.year ≤ 9998 →
        ∀ tasks,
          keptByToken clock anchor (brackets conditions ++ t) tasks =
            kept clock anchor ⟨conditionsOf conditions⟩ tasks >>= keptByToken clock anchor t ∧
          keptByToken clock anchor (brackets conditions ++ t) tasks =
            keptByToken clock anchor t tasks >>=
              kept clock anchor ⟨conditionsOf conditions⟩ := by
  refine ⟨parse_append hheld t, ?_⟩
  intro clock anchor now hnow hyear tasks
  obtain ⟨met, hkept⟩ := exists_kept hnow hyear
  have hbyToken : ∀ token tasks, keptByToken clock anchor token tasks =
      (parse token).map fun f => tasks.filter fun task => f.predicates.all (met task) := by
    intro token tasks
    unfold keptByToken
    cases parse token with
    | error fault => rfl
    | ok f => exact hkept f tasks
  rw [hbyToken, parse_append hheld, hkept]
  change _ = keptByToken clock anchor t _ ∧ _
  rw [hbyToken, hbyToken]
  cases parse t with
  | error fault => exact ⟨rfl, rfl⟩
  | ok g =>
      simp only [Except.map, bind, Except.bind, hkept, Filter.and, List.all_append,
        List.filter_filter, and_true]
      exact congrArg Except.ok (List.filter_congr fun _ _ => Bool.and_comm _ _)

/-- The token is left of a line with a condition in front, and both have to be met. -/
theorem parse_brackets_append_high :
    let clock : WallClock := ⟨.utc, .ofInt 1792405800⟩
    let milk := { Task.ofName "buy milk".toList with priority := .high }
    let bread := Task.ofName "buy bread".toList
    keptByToken clock .present "[priority:high]buy".toList [milk, bread] = .ok [milk] := by
  intro clock milk bread
  have hheld : ∀ c ∈ [(FilterKind.priority, "high".toList)], IsHeld c.2 := by
    intro c hc
    rw [List.mem_singleton.mp hc]
    exact ⟨by decide, by decide⟩
  obtain ⟨_, hkept⟩ := parse_brackets_append hheld "buy".toList
  have hnow : clock.resolve .present =
      .ok (.on ⟨2026, 10, 19, by decide⟩ ⟨10, 30, 0, by decide⟩) := by
    decide +kernel
  refine (hkept hnow (by decide) [milk, bread]).1.trans ?_
  decide +kernel

end Agenda.Filter
