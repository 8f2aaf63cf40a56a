import Agenda.Filter.Basic
import Agenda.Proofs.Fault
import Mathlib

/-!
The tasks that a filter selects are those that pass it at the time of the selection. They stand in
their order and carry their places in the list.
-/

namespace Agenda.Filter

open Clock

variable {clock : WallClock} {now : LocalTime} {f : Filter}

/-- What is selected is what is left of the tasks and their places if the ones that do not pass are
taken out. -/
theorem selectFrom_eq {i : Nat} {tasks : List Task} {kept : List (Nat × Task)}
    (h : selectFrom clock now f i tasks = .ok kept) :
    kept = ((tasks.zipIdx i).filter fun entry =>
      decide (f.passes clock (.localTime now) entry.1 = .ok true)).map Prod.swap := by
  induction tasks generalizing i kept with
  | nil =>
      cases h
      rfl
  | cons task rest ih =>
      obtain ⟨keep, hkeep, h⟩ := ok_of_bind h
      obtain ⟨more, hmore, h⟩ := ok_of_bind h
      rw [List.zipIdx_cons, List.filter_cons, hkeep]
      cases keep with
      | false =>
          cases h
          simpa using ih hmore
      | true =>
          cases h
          simpa using ih hmore

/-- A task passes at an anchor if it passes at the local time of the anchor. -/
theorem passes_of_resolve {anchor : Anchor} (hnow : clock.resolve anchor = .ok now) (task : Task) :
    f.passes clock (.localTime now) task = f.passes clock anchor task := by
  have htime : clock.resolve (.localTime now) = .ok now := rfl
  rw [passes, passes, hnow, htime]

section Select

variable {anchor : Anchor} {tasks : List Task} {kept : List (Nat × Task)}
  (h : f.select clock anchor tasks = .ok kept)
include h

theorem select_eq : kept = ((tasks.zipIdx).filter fun entry =>
    decide (f.passes clock anchor entry.1 = .ok true)).map Prod.swap := by
  obtain ⟨now, hnow, hkept⟩ := ok_of_bind h
  simpa only [passes_of_resolve hnow] using selectFrom_eq hkept

/-- The selected tasks are those that pass, each at its place. -/
theorem mem_select_iff (place : Nat) (task : Task) : (place, task) ∈ kept ↔
    tasks[place]? = some task ∧ f.passes clock anchor task = .ok true := by
  have hswap : (place, task) = (task, place).swap := rfl
  rw [select_eq h, hswap, List.mem_map_of_injective Prod.swap_injective, List.mem_filter,
    List.mk_mem_zipIdx_iff_getElem?, decide_eq_true_iff]

/-- The places of the selected tasks go up. -/
theorem pairwise_select : (kept.map Prod.fst).Pairwise (· < ·) := by
  rw [select_eq h, List.map_map]
  change (List.map Prod.snd _).Pairwise _
  apply List.Pairwise.sublist (List.filter_sublist.map Prod.snd)
  rw [List.zipIdx_map_snd]
  exact List.pairwise_lt_range'

/-- A selected task stands at its place in the list. -/
theorem getElem?_of_select {place : Nat} {task : Task} (hmem : (place, task) ∈ kept) :
    tasks[place]? = some task :=
  ((mem_select_iff h place task).mp hmem).1

end Select

end Agenda.Filter
