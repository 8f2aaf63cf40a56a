import Agenda.Console.Command
import Agenda.Proofs.Filter.Selection
import Mathlib

/-!
What one command does to a session. A command answers and leaves the session alone, or it does the
one thing it is for: a new task at the end, one status flipped, the tasks in another order, another
filter in use, or other saved filters. Of these only a new task and another filter can come together
with a failure, since they are in place before the answer is put together.
-/

namespace Agenda.Console

open Clock Log

namespace Session

/-- The task that the arguments of a new task make. They make one if a name is left of them, the due
date is understood, and the clock has come to a number of seconds. -/
def newTask? (clock : WallClock) (args : List Text) : Option Task :=
  let (fields, phrase) := splitDue args
  let parts := fields.foldl TaskParts.take ⟨[], [], .medium⟩
  let name := Text.trim (Text.join [' '] parts.words)
  if name = [] then none
  else
    match dueSecond clock phrase, clock.seconds.whole with
    | .ok (some due), .ok created =>
      some { Task.ofName name with
        due := some due, tags := parts.tags.map some, priority := parts.priority,
        created := created }
    | _, _ => none

/-- The fields of a task that arguments make. -/
theorem newTask?_fields {clock : WallClock} {args : List Text} {task : Task}
    (h : newTask? clock args = some task) :
    task.status = .pending ∧ ∃ tags : List Text, task.tags = tags.map some := by
  unfold newTask? at h
  dsimp only at h
  split_ifs at h
  split at h
  · obtain rfl := Option.some.inj h
    exact ⟨rfl, _, rfl⟩
  · cases h

/-- The filter that a command brings into use. -/
def chosen? (s : Session) (args : List Text) : Command → Option Filter
  | .list => if args = [] then none else (Filter.parse (Text.join [' '] args)).toOption
  | .clear => some .empty
  | .presets =>
    match args with
    | sub :: name :: _ => if Text.lower sub = "use".toList then s.presets.get? name else none
    | _ => none
  | _ => none

/-- What a command can do to the saved filters: nothing, add the filter of a token, or remove
one. -/
inductive Edits (p : Presets) : Presets → Prop where
  | none : Edits p p
  | added (name token : Text) : Edits p (p.addToken name token).2
  | removed (name : Text) : Edits p (p.remove name).2

/-- The words after which a command for the saved filters saves or removes one. -/
def editWords : List Text := ["save", "rm", "remove", "delete"].map String.toList

/-- What a command can come to: the reply with the session, the lines and the records that it leaves
behind. -/
inductive Step (s : Session) (clock : WallClock) (args : List Text) : Command → Turn → Prop
  | answers {command : Command} (reply : Except Fault Text)
      (hadd : command = .add → newTask? clock args = none)
      (hchosen : s.chosen? args command = none) : Step s clock args command (s.answer reply)
  | adds {task : Task} (h : newTask? clock args = some task) (name : Text) (due : Int) :
      Step s clock args .add
        ⟨do return "Added: ".toList ++ (← taskText clock (s.tasks ++ [task]).length task),
          { s with tasks := s.tasks ++ [task] }, [], [taskRecord name due task.priority]⟩
  | flips {place : Nat} (hplace : place < s.tasks.length) (reply : Text) :
      Step s clock args .toggle ⟨.ok reply, s.flipAt place, [], []⟩
  | sorts {tasks : List Task} (hperm : tasks.Perm s.tasks) (reply : Text) :
      Step s clock args .sort ⟨.ok reply, { s with tasks := tasks }, [], []⟩
  | chooses {command : Command} {f : Filter} (hchosen : s.chosen? args command = some f)
      (reply : Except Fault Text) (shown : List Text) :
      Step s clock args command ⟨reply, { s with active := f }, shown, []⟩
  | edits {sub : Text} {rest : List Text} (hargs : args = sub :: rest)
      (hsub : Text.lower sub ∈ editWords) {presets : Presets} (hedits : Edits s.presets presets)
      (reply : Text) (log : List Record)
      (hlog : ∀ r ∈ log, ∃ (name : Text) (f : Filter), r = Presets.addedRecord name f) :
      Step s clock args .presets ⟨.ok reply, { s with presets := presets }, [], log⟩

variable {s : Session} {clock : WallClock} {emit : Option Emitter} {args : List Text}

private theorem step_answer {command : Command} (reply : Except Fault Text)
    (hadd : command ≠ .add) (hchosen : s.chosen? args command = none) :
    Step s clock args command (s.answer reply) :=
  .answers reply (fun h => absurd h hadd) hchosen

private theorem step_addTask : Step s clock args .add (s.addTask clock args) := by
  have hanswer : ∀ reply, newTask? clock args = none → Step s clock args .add (s.answer reply) :=
    fun reply h => .answers reply (fun _ => h) rfl
  unfold addTask
  split
  · next hargs => exact hanswer _ (hargs ▸ rfl)
  · dsimp only
    unfold newTask? at hanswer
    dsimp only at hanswer
    split
    · next hname => exact hanswer _ (if_pos hname)
    · next hname =>
        rw [if_neg hname] at hanswer
        split
        · next hdue => exact hanswer _ (by rw [hdue])
        · next hdue => exact hanswer _ (by rw [hdue])
        · next due hdue =>
            split
            · next hcreated => exact hanswer _ (by rw [hdue, hcreated])
            · next created hcreated =>
                refine .adds ?_ _ due
                unfold newTask?
                dsimp only
                rw [if_neg hname, hdue, hcreated]

private theorem step_toggle : Step s clock args .toggle (s.toggle clock args) := by
  have hanswer : ∀ reply, Step s clock args .toggle (s.answer reply) :=
    fun reply => step_answer reply nofun rfl
  unfold toggle
  split
  · exact hanswer _
  · next tasks hvisible =>
      split
      · exact hanswer _
      · split
        · exact hanswer _
        · next place task hshown =>
            have hmem : (place, task) ∈ tasks := by
              split_ifs at hshown
              exact List.mem_of_getElem? hshown
            have hplace := Filter.getElem?_of_select hvisible hmem
            exact .flips (List.getElem?_eq_some_iff.mp hplace).1 _

private theorem step_list : Step s clock args .list (s.list clock args) := by
  unfold list
  split
  · next hargs => exact step_answer _ nofun (if_pos hargs)
  · next hargs =>
      have hchosen : s.chosen? args .list = (Filter.parse (Text.join [' '] args)).toOption :=
        if_neg hargs
      split
      · next hparse => exact step_answer _ nofun (by rw [hchosen, hparse]; rfl)
      · next f hparse => exact .chooses (by rw [hchosen, hparse]; rfl) _ []

private theorem step_sort : Step s clock args .sort (s.sort args) := by
  unfold sort
  dsimp only
  split
  · next tasks hsort =>
      obtain ⟨key, _, hsorted⟩ := ok_of_bind hsort
      cases hsorted
      exact .sorts (List.mergeSort_perm _ _) _
  · exact step_answer _ nofun rfl
  · exact step_answer _ nofun rfl

private theorem step_usePreset {sub name : Text} {rest : List Text}
    (hargs : args = sub :: name :: rest) (hsub : Text.lower sub = "use".toList) :
    Step s clock args .presets (s.usePreset clock emit name) := by
  have hchosen : s.chosen? args .presets = s.presets.get? name := by
    rw [hargs]
    exact if_pos hsub
  unfold usePreset
  split
  · next hget => exact step_answer _ nofun (hchosen.trans hget)
  · next f hget =>
      have huse := hchosen.trans hget
      dsimp only
      split
      · exact .chooses huse _ []
      · split
        · exact .chooses huse _ []
        · exact .chooses huse _ _

private theorem chosen?_of_ne {sub : Text} (rest : List Text)
    (hsub : Text.lower sub ≠ "use".toList) : s.chosen? (sub :: rest) .presets = none := by
  cases rest with
  | nil => rfl
  | cons name rest => exact if_neg hsub

private theorem step_savePreset {sub name token : Text} {rest : List Text}
    (hargs : args = sub :: rest) (hsub : Text.lower sub = "save".toList) :
    Step s clock args .presets (s.savePreset name token) := by
  have hedits : Edits s.presets (s.presets.addToken name token).2 := .added name token
  have hword : Text.lower sub ∈ editWords := by
    rw [hsub]
    decide
  unfold savePreset
  generalize s.presets.addToken name token = added at hedits ⊢
  obtain ⟨_ | f, presets⟩ := added
  · exact .edits hargs hword hedits _ [] nofun
  · exact .edits hargs hword hedits _ _ fun r hr => ⟨_, _, List.mem_singleton.mp hr⟩

private theorem step_removePreset {sub name : Text} {rest : List Text}
    (hargs : args = sub :: rest)
    (hsub : Text.lower sub ∈ ["rm", "remove", "delete"].map String.toList) :
    Step s clock args .presets (s.removePreset name) := by
  have hedits : Edits s.presets (s.presets.remove name).2 := .removed name
  exact .edits hargs (List.mem_cons_of_mem _ hsub) hedits _ [] nofun

private theorem step_managePresets :
    Step s clock args .presets (s.managePresets clock emit args) := by
  unfold managePresets
  split
  · exact step_answer _ nofun rfl
  · next sub rest =>
      have hanswer : ∀ reply, Text.lower sub ≠ "use".toList →
          Step s clock (sub :: rest) .presets (s.answer reply) :=
        fun reply hsub => step_answer reply nofun (chosen?_of_ne rest hsub)
      dsimp only
      split_ifs with hlist hsave huse hremove
      · have hne : Text.lower sub ≠ "use".toList := by
          rw [hlist]
          decide
        unfold listPresets
        split_ifs
        · exact hanswer _ hne
        · exact hanswer _ hne
      · split
        · exact step_savePreset rfl hsave
        · exact hanswer _ (by rw [hsave]; decide)
      · split
        · exact step_usePreset rfl huse
        · exact step_answer _ nofun rfl
      · split
        · exact step_removePreset rfl (List.contains_iff_mem.mp hremove)
        · exact hanswer _ huse
      · exact hanswer _ huse

/-- What a command can come to. -/
theorem run_step (s : Session) (clock : WallClock) (emit : Option Emitter) (args : List Text)
    (command : Command) : Step s clock args command (s.run clock emit args command) := by
  cases command with
  | help => exact step_answer _ nofun rfl
  | due =>
      change Step s clock args .due (s.explainDue clock args)
      unfold explainDue
      dsimp only
      split <;> exact step_answer _ nofun rfl
  | time =>
      change Step s clock args .time (s.explainTime clock args)
      unfold explainTime
      dsimp only
      split <;> exact step_answer _ nofun rfl
  | window =>
      cases args with
      | nil => exact step_answer _ nofun rfl
      | cons name rest => exact step_answer _ nofun rfl
  | add => exact step_addTask
  | toggle => exact step_toggle
  | list => exact step_list
  | clear => exact .chooses rfl _ []
  | sort => exact step_sort
  | presets => exact step_managePresets

end Session

end Agenda.Console
