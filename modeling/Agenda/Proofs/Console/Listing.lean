import Agenda.Proofs.Console.Crash
import Agenda.Proofs.Text.Numeral
import Mathlib

/-!
The list of tasks and the numbers in it. A command that changes the status of a task by its number
computes the list again, so the number has to be traced back through the filter to the place of the
task among all tasks. A filter that does not fail leaves one way in which showing the list can fail:
a listed task that has no line.
-/

namespace Agenda.Console

open Clock DueDate Text

/-- The task has a line at any number: none of its tags is missing, and the local clock shows its
due second, if it has one. -/
structure HasLine (z : Zone) (task : Task) : Prop where
  tags : ∀ tag ∈ task.tags, tag.isSome = true
  due : ∀ due, task.due = some due → due ≠ 0 → z.IsShown due

private theorem dueShown_iff {clock : WallClock} (hnow : ∃ now, clock.resolve .present = .ok now)
    (task : Task) :
    DueShown clock task ↔ ∀ due, task.due = some due → due ≠ 0 → clock.zone.IsShown due := by
  have hinstant : ∀ instant, task.due.bind instant? = some instant ↔
      ∃ due, task.due = some due ∧ due ≠ 0 ∧ instant = .ofSeconds due := by
    intro instant
    simp only [Option.bind_eq_some_iff, instant?, Option.ite_none_left_eq_some,
      Option.some.injEq, @eq_comm _ _ instant, ne_eq]
  constructor
  · intro h due hdue hne
    have hinstant := (hinstant _).mpr ⟨due, hdue, hne, rfl⟩
    exact (Zone.exists_toLocal_iff _ _).mp (h _ hinstant).1
  · intro h instant hbind
    obtain ⟨due, hdue, hne, rfl⟩ := (hinstant _).mp hbind
    exact ⟨(Zone.exists_toLocal_iff _ _).mpr (h due hdue hne), hnow⟩

private theorem hasLine_iff {clock : WallClock} (hnow : ∃ now, clock.resolve .present = .ok now)
    (number : Nat) (task : Task) :
    (∃ text, taskText clock number task = .ok text) ↔ HasLine clock.zone task := by
  rw [taskText_ok_iff, dueShown_iff hnow]
  exact ⟨fun h => ⟨h.1, h.2⟩, fun h => ⟨h.tags, h.due⟩⟩

namespace Session

/-- The lines of tasks are their lines at consecutive numbers. -/
theorem taskLines_eq_iff (clock : WallClock) (number : Nat) (tasks : List Task)
    (lines : List Text) :
    taskLines clock number tasks = .ok lines ↔
      List.Forall₂ (fun entry line => taskText clock entry.2 entry.1 = .ok line)
        (tasks.zipIdx number) lines := by
  induction tasks generalizing number lines with
  | nil =>
      rw [List.zipIdx_nil, List.forall₂_nil_left_iff]
      exact ⟨fun h => (Except.ok.inj h).symm, fun h => h ▸ rfl⟩
  | cons task rest ih =>
      rw [List.zipIdx_cons, List.forall₂_cons_left_iff]
      constructor
      · intro h
        obtain ⟨line, hline, h⟩ := ok_of_bind h
        obtain ⟨more, hmore, h⟩ := ok_of_bind h
        exact ⟨line, more, hline, (ih _ _).mp hmore, (Except.ok.inj h).symm⟩
      · rintro ⟨line, more, hline, hmore, rfl⟩
        rw [taskLines, hline, (ih _ _).mpr hmore]
        rfl

/-- Tasks have lines exactly if each of them has one. -/
private theorem exists_taskLines_iff {clock : WallClock}
    (hnow : ∃ now, clock.resolve .present = .ok now) (number : Nat) (tasks : List Task) :
    (∃ lines, taskLines clock number tasks = .ok lines) ↔
      ∀ task ∈ tasks, HasLine clock.zone task := by
  induction tasks generalizing number with
  | nil => exact iff_of_true ⟨[], rfl⟩ (by simp)
  | cons task rest ih =>
      rw [List.forall_mem_cons, ← hasLine_iff hnow number, ← ih (number + 1)]
      constructor
      · rintro ⟨lines, h⟩
        obtain ⟨line, hline, h⟩ := ok_of_bind h
        obtain ⟨more, hmore, _⟩ := ok_of_bind h
        exact ⟨⟨line, hline⟩, more, hmore⟩
      · rintro ⟨⟨line, hline⟩, more, hmore⟩
        exact ⟨line :: more, by rw [taskLines, hline, hmore]; rfl⟩

/-- The places of the tasks that the console lists, in the order of the list. -/
structure Lists (s : Session) (clock : WallClock) (places : List Nat) : Prop where
  ascending : places.Pairwise (· < ·)
  mem_iff (place : Nat) : place ∈ places ↔
    ∃ task, s.tasks[place]? = some task ∧ s.active.passes clock .present task = .ok true

/-- Only one list of places is that of the listed tasks. -/
theorem Lists.unique {s : Session} {clock : WallClock} {places others : List Nat}
    (h : s.Lists clock places) (h' : s.Lists clock others) : places = others := by
  refine h.ascending.eq_of_mem_iff h'.ascending fun place => ?_
  rw [h.mem_iff, h'.mem_iff]

/-- The line above a list. -/
def heading (s : Session) : Text :=
  if s.active.isEmpty then "All tasks".toList else "Filter: ".toList ++ s.active.token

/-- The text shows the tasks at the places and no others, numbered from 1 on. -/
def Shows (s : Session) (clock : WallClock) (places : List Nat) (text : Text) : Prop :=
  ∃ lines,
    List.Forall₂ (fun entry line => ∃ task, s.tasks[entry.1]? = some task ∧
      taskText clock entry.2 task = .ok line) (places.zipIdx 1) lines ∧
    text = if places = [] then s.heading ++ "\n  (no tasks)".toList
      else Text.join ['\n'] (s.heading :: lines)

section Visible

variable {s : Session} {clock : WallClock} {kept : List (Nat × Task)}
  (hvisible : s.visible clock = .ok kept)
include hvisible

private theorem exists_now : ∃ now, clock.resolve .present = .ok now := by
  obtain ⟨now, hnow, _⟩ := ok_of_bind hvisible
  exact ⟨now, hnow⟩

theorem lists_of_visible : s.Lists clock (kept.map Prod.fst) := by
  refine ⟨Filter.pairwise_select hvisible, fun place => ?_⟩
  rw [List.mem_map]
  constructor
  · rintro ⟨⟨_, task⟩, hmem, rfl⟩
    exact ⟨task, (Filter.mem_select_iff hvisible _ _).mp hmem⟩
  · rintro ⟨task, htask⟩
    exact ⟨(place, task), (Filter.mem_select_iff hvisible _ _).mpr htask, rfl⟩

/-- What holds of the tasks at the listed places holds of the tasks that pass. -/
private theorem forall_listed_iff {P : Task → Prop} :
    (∀ place ∈ kept.map Prod.fst, ∀ task, s.tasks[place]? = some task → P task) ↔
      ∀ entry ∈ kept, P entry.2 := by
  constructor
  · intro h entry hentry
    exact h _ (List.mem_map_of_mem hentry) _ (Filter.getElem?_of_select hvisible hentry)
  · intro h place hplace task htask
    obtain ⟨entry, hentry, rfl⟩ := List.mem_map.mp hplace
    have hsame := (Filter.getElem?_of_select hvisible hentry).symm.trans htask
    exact Option.some.inj hsame ▸ h entry hentry

/-- The task at a listed place is the one that the list has there. -/
private theorem getElem?_kept {i place : Nat} {task : Task}
    (hplace : (kept.map Prod.fst)[i]? = some place) (htask : s.tasks[place]? = some task) :
    kept[i]? = some (place, task) := by
  rw [List.getElem?_map, Option.map_eq_some_iff] at hplace
  obtain ⟨⟨_, other⟩, hentry, rfl⟩ := hplace
  have hother := Filter.getElem?_of_select hvisible (List.mem_of_getElem? hentry)
  obtain rfl := Option.some.inj (hother.symm.trans htask)
  exact hentry

private theorem listing_eq :
    s.listing clock = if kept.isEmpty then .ok (s.heading ++ "\n  (no tasks)".toList)
      else do return Text.join ['\n'] (s.heading :: (← taskLines clock 1 (kept.map Prod.snd))) := by
  rw [listing, hvisible]
  rfl

/-- A list shows the listed tasks. -/
theorem listing_shows {text : Text} (h : s.listing clock = .ok text) :
    s.Shows clock (kept.map Prod.fst) text := by
  rw [listing_eq hvisible] at h
  cases kept with
  | nil => exact ⟨[], .nil, (Except.ok.inj h).symm⟩
  | cons entry rest =>
      obtain ⟨lines, hlines, h⟩ := ok_of_bind h
      refine ⟨lines, ?_, (Except.ok.inj h).symm⟩
      have hplaced : ∀ entry' ∈ (entry :: rest).zipIdx 1,
          s.tasks[entry'.1.1]? = some entry'.1.2 := by
        rintro ⟨⟨place, task⟩, number⟩ hmem
        exact Filter.getElem?_of_select hvisible (List.fst_mem_of_mem_zipIdx hmem)
      rw [taskLines_eq_iff, List.zipIdx_map, List.forall₂_map_left_iff] at hlines
      rw [List.zipIdx_map, List.forall₂_map_left_iff]
      refine ((List.forall₂_and_left _ _).mpr ⟨hplaced, hlines⟩).imp ?_
      rintro ⟨⟨place, task⟩, number⟩ line ⟨hplace, hline⟩
      exact ⟨task, hplace, hline⟩

/-- A list can be shown exactly if each listed task has a line. -/
theorem listing_ok_iff : (∃ text, s.listing clock = .ok text) ↔
    ∀ entry ∈ kept, HasLine clock.zone entry.2 := by
  have hlines := exists_taskLines_iff (exists_now hvisible) 1 (kept.map Prod.snd)
  rw [List.forall_mem_map] at hlines
  rw [listing_eq hvisible, ← hlines]
  cases kept with
  | nil => exact iff_of_true ⟨_, rfl⟩ ⟨[], rfl⟩
  | cons entry rest =>
      constructor
      · rintro ⟨text, h⟩
        obtain ⟨lines, hlines, _⟩ := ok_of_bind h
        exact ⟨lines, hlines⟩
      · rintro ⟨lines, hlines⟩
        exact ⟨_, by rw [if_neg (by simp), hlines]; rfl⟩

/-- The number of a listed task changes the status of that task. -/
theorem toggle_of_listed {arg : Text} {i place : Nat} {task : Task}
    (hnumber : toInt? arg = some ((i : Int) + 1)) (hentry : kept[i]? = some (place, task))
    (args : List Text) : (s.toggle clock (arg :: args)).session =
      { s with tasks := s.tasks.set place { task with status := task.status.flip } } := by
  have hplace := Filter.getElem?_of_select hvisible (List.mem_of_getElem? hentry)
  have hread : (arg :: args).head?.bind toInt? = some ((i : Int) + 1) := hnumber
  have hindex : ((i : Int) + 1).toNat - 1 = i := by omega
  have hpositive : ¬ ((i : Int) + 1 < 1) := by omega
  rw [toggle, hvisible]
  dsimp only
  rw [hread]
  dsimp only
  rw [if_neg hpositive, hindex, hentry]
  simp [flipAt, List.modify_eq_set_getElem?, hplace]

/-- Anything else changes nothing. -/
theorem toggle_of_not_listed {arg : Text} (h : ∀ i < kept.length, toInt? arg ≠ some ((i : Int) + 1))
    (args : List Text) : (s.toggle clock (arg :: args)).session = s := by
  have hread : (arg :: args).head?.bind toInt? = toInt? arg := rfl
  rw [toggle, hvisible]
  dsimp only
  rw [hread]
  split
  · rfl
  · next number hnumber =>
      split
      · rfl
      · next place task hentry =>
          rw [Option.ite_none_left_eq_some] at hentry
          obtain ⟨hpositive, hentry⟩ := hentry
          have hlisted := (List.getElem?_eq_some_iff.mp hentry).1
          refine absurd hnumber ?_
          have hindex : number = ((number.toNat - 1 : Nat) : Int) + 1 := by omega
          rw [hindex]
          exact h _ hlisted

end Visible

/-- A line that calls for the list and gives no filter leaves the session alone. It is answered with
the list, or, if a listed task has no line, like any other failure. -/
theorem handle_list (s : Session) (clock : WallClock) {line : Text} (hcalls : Calls line .list []) :
    (s.handle clock line).session = s ∧
      (∀ text, s.listing clock = .ok text → (s.handle clock line).reply = some text) ∧
      ((¬ ∃ text, s.listing clock = .ok text) → (s.handle clock line).reply = some crashReply) := by
  have hrun : s.run clock (some (stamped clock)) [] .list = s.answer (s.listing clock) := rfl
  rw [handle_of_calls hcalls, hrun, Turn.handled_session]
  refine ⟨rfl, fun text h => ?_, fun h => ?_⟩
  · simp [Turn.handled, answer, h]
  · cases hlisting : s.listing clock with
    | error fault => rfl
    | ok text => exact absurd ⟨text, hlisting⟩ h

/-- A line with an integer behind the name of the command has the numeral as its only argument. -/
theorem calls_toggle_ofInt (n : Int) : Calls ("/done ".toList ++ ofInt n) .toggle [ofInt n] := by
  have htrim := trim_append_ofInt "/done ".toList (by rintro c ⟨⟩; rfl) n
  have hwords : words ("done ".toList ++ ofInt n) = "done".toList :: words (ofInt n) := rfl
  rw [words_of_not_isBlank (ofInt_ne_nil n) fun c hc => not_isBlank_ofInt hc] at hwords
  exact .slashed htrim hwords (by decide)

/-- The numbers of the list are the numbers by which a status is changed. Wherever the filter in use
does not fail, there are the places of the tasks that pass it, in order. A list without a new filter
leaves the session alone, and it shows exactly these tasks, numbered from 1 on, unless one of them
has no line. The number of one of them changes the status of the task at its place and nothing else,
and any other argument changes nothing. Integers are read as themselves up to the number of digits
that is read. -/
theorem toggle_listed {s : Session} {clock : WallClock} {kept : List (Nat × Task)}
    (hvisible : s.visible clock = .ok kept) :
    (∃ places, s.Lists clock places) ∧
    (∀ places, s.Lists clock places →
      (∀ line, Calls line .list [] →
        (s.handle clock line).session = s ∧
        ((∀ place ∈ places, ∀ task, s.tasks[place]? = some task → HasLine clock.zone task) →
          ∃ text, (s.handle clock line).reply = some text ∧ s.Shows clock places text) ∧
        ((∃ place ∈ places, ∃ task, s.tasks[place]? = some task ∧ ¬ HasLine clock.zone task) →
          (s.handle clock line).reply = some crashReply)) ∧
      ∀ line arg args, Calls line .toggle (arg :: args) →
        (∀ (i place : Nat) (task : Task), toInt? arg = some ((i : Int) + 1) →
          places[i]? = some place → s.tasks[place]? = some task →
          (s.handle clock line).session =
            { s with tasks := s.tasks.set place { task with status := task.status.flip } }) ∧
        ((∀ i < places.length, toInt? arg ≠ some ((i : Int) + 1)) →
          (s.handle clock line).session = s)) ∧
    ∀ n : Int, Calls ("/done ".toList ++ ofInt n) .toggle [ofInt n] ∧
      toInt? (ofInt n) = if (ofNat n.natAbs).length ≤ maxDigits then some n else none := by
  have hkept := lists_of_visible hvisible
  refine ⟨⟨_, hkept⟩, ?_, fun n => ⟨calls_toggle_ofInt n, toInt?_ofInt n⟩⟩
  intro places hplaces
  obtain rfl := hplaces.unique hkept
  have hlines := forall_listed_iff hvisible (P := HasLine clock.zone)
  rw [← listing_ok_iff hvisible] at hlines
  constructor
  · intro line hcalls
    obtain ⟨hsession, hshown, hcrash⟩ := handle_list s clock hcalls
    refine ⟨hsession, fun hall => ?_, ?_⟩
    · obtain ⟨text, htext⟩ := hlines.mp hall
      exact ⟨text, hshown text htext, listing_shows hvisible htext⟩
    · rintro ⟨place, hplace, task, htask, hline⟩
      exact hcrash fun htext => hline (hlines.mpr htext place hplace task htask)
  · intro line arg args hcalls
    have hrun : s.run clock (some (stamped clock)) (arg :: args) .toggle =
        s.toggle clock (arg :: args) := rfl
    rw [handle_of_calls hcalls, hrun, Turn.handled_session]
    constructor
    · intro i place task hnumber hplace htask
      exact toggle_of_listed hvisible hnumber (getElem?_kept hvisible hplace htask) args
    · rw [List.length_map]
      exact fun h => toggle_of_not_listed hvisible h args

/-- The first task that is not done is the second one of all. -/
theorem toggle_listed_second :
    let clock : WallClock := ⟨.utc, .ofInt 1792405800⟩
    let first := { Task.ofName "a".toList with status := .done }
    let second := Task.ofName "b".toList
    let s : Session := ⟨.empty, [first, second], ⟨[.named .status "pending".toList]⟩⟩
    s.visible clock = .ok [(1, second)] ∧
      (s.handle clock "/done 1".toList).session =
        { s with tasks := [first, { second with status := .done }] } := by
  intro clock first second s
  have hvisible : s.visible clock = .ok [(1, second)] := by decide +kernel
  obtain ⟨_, hnumbers, hread⟩ := toggle_listed hvisible
  obtain ⟨_, htoggles⟩ := hnumbers [1] (lists_of_visible hvisible)
  obtain ⟨hcalls, hone⟩ := hread 1
  obtain ⟨hlisted, _⟩ := htoggles _ _ _ hcalls
  exact ⟨hvisible, hlisted 0 1 second hone rfl rfl⟩

/-- A due date that has no local time keeps the whole list from being shown, although the filter in
use does not fail. -/
theorem listing_unshown :
    let clock : WallClock := ⟨.utc, .ofInt 1792405800⟩
    let task := { Task.ofName "x".toList with due := some (-62135596800) }
    let s : Session := ⟨.empty, [task], .empty⟩
    s.visible clock = .ok [(0, task)] ∧ Calls "/list".toList .list [] ∧
      (s.handle clock "/list".toList).reply = some crashReply := by
  intro clock task s
  have hwords : words "list".toList = ["list".toList] := rfl
  have hcalls : Calls "/list".toList .list [] := .slashed rfl hwords (by decide)
  exact ⟨by decide +kernel, hcalls, by decide +kernel⟩

end Session

end Agenda.Console
