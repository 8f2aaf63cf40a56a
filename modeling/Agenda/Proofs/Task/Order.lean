import Agenda.Task.Order
import Mathlib

/-!
Sorting tasks is stable: tasks that a key does not tell apart stay in the order in which they were.
So the order of an earlier sort is still there among them, and a second sort by the same key changes
nothing.
-/

namespace Agenda

namespace Sorting

variable {α : Type} {le : α → α → Bool}

/-- Of items that compare equal, a stable sort keeps how they stood to each other. -/
theorem pairwise_mergeSort_stable
    (htrans : ∀ a b c, le a b = true → le b c = true → le a c = true)
    (htotal : ∀ a b, (le a b || le b a) = true) {r : α → α → Prop} {items : List α}
    (h : items.Pairwise r) :
    (items.mergeSort le).Pairwise fun a b => le a b = true ∧ (le b a = true → r a b) := by
  have hsorted := List.pairwise_mergeSort (List.zipIdxLE_trans htrans)
    (List.zipIdxLE_total htotal) items.zipIdx
  have hperm := List.mergeSort_perm items.zipIdx (List.zipIdxLE le)
  have hplaces : ((items.zipIdx.mergeSort (List.zipIdxLE le)).map Prod.snd).Nodup := by
    rw [(hperm.map Prod.snd).nodup_iff, List.zipIdx_map_snd]
    exact List.nodup_range'
  rw [← List.mergeSort_zipIdx, List.pairwise_map]
  apply (hsorted.and (List.pairwise_map.mp hplaces)).imp_of_mem
  rintro ⟨a, i⟩ ⟨b, j⟩ ha hb ⟨hle, hne⟩
  rw [hperm.mem_iff, List.mem_zipIdx_iff_getElem?] at ha hb
  dsimp only [List.zipIdxLE] at ha hb hle hne ⊢
  split_ifs at hle with hab hba
  · -- equal items are compared by their places
    obtain ⟨hi, rfl⟩ := List.getElem?_eq_some_iff.mp ha
    obtain ⟨hj, rfl⟩ := List.getElem?_eq_some_iff.mp hb
    have hlt : i < j := lt_of_le_of_ne (of_decide_eq_true hle) hne
    exact ⟨hab, fun _ => List.pairwise_iff_getElem.mp h i j hi hj hlt⟩
  · exact ⟨hab, fun hba' => absurd hba' hba⟩

end Sorting

namespace Task

namespace SortKey

/-- The names of a key, as they are written in lowercase. -/
def names : SortKey → List Text
  | name => ["name".toList]
  | due => ["due", "prio", "priority"].map String.toList
  | created => ["creation", "created"].map String.toList

theorem ofName?_eq_some_iff (field : Text) (key : SortKey) :
    ofName? field = some key ↔ Text.lower (Text.trim field) ∈ key.names := by
  unfold ofName?
  dsimp only
  generalize Text.lower (Text.trim field) = word
  constructor
  · intro h
    split_ifs at h with hname hcreated hdue
    · cases h
      exact List.mem_singleton.mpr hname
    · cases h
      exact List.contains_iff_mem.mp hcreated
    · cases h
      exact List.contains_iff_mem.mp hdue
  · revert word
    cases key <;> decide

/-- Under a key a task comes before another one: by its name, code point by code point; by its
creation; or, if it has a due date, before one that has none, one that is due later, and one that is
due at the same time and less urgent. -/
def Before (a b : Task) : SortKey → Prop
  | name => a.name.getD [] < b.name.getD []
  | created => a.created < b.created
  | due => a.hasDue = true ∧ (b.hasDue = false ∨ a.due < b.due ∨
      a.due = b.due ∧ b.priority.rank < a.priority.rank)

end SortKey

section Order

variable {a b c : Task} {key : SortKey}

private theorem secondLe_iff : secondLe a b = true ↔
    ¬ (b.due < a.due ∨ b.due = a.due ∧ a.priority.rank < b.priority.rank) := by
  unfold secondLe
  cases a.due with
  | none => cases b.due <;> simp
  | some m =>
      cases b.due with
      | none => simp
      | some n =>
          simp only [Option.some_lt_some, Option.some.injEq]
          split_ifs with h <;> simp only [decide_eq_true_eq] <;> omega

theorem le_iff : le key a b = true ↔ ¬ key.Before b a := by
  cases key with
  | name => simp [le, nameLe, SortKey.Before]
  | created => simp [le, createdLe, SortKey.Before]
  | due =>
      simp only [le, dueLe, SortKey.Before]
      cases b.hasDue with
      | false => simp
      | true => cases a.hasDue <;> simp [secondLe_iff]

theorem SortKey.Before.asymm (h : key.Before a b) : ¬ key.Before b a := by
  cases key with
  | name => exact List.lt_asymm h
  | created => exact lt_asymm h
  | due =>
      obtain ⟨ha, hb | h⟩ := h
      · simp [SortKey.Before, hb]
      · simp only [SortKey.Before, ha]
        cases hm : a.due <;> cases hn : b.due <;> simp [hm, hn] at h ⊢ <;> omega

theorem le_total (key : SortKey) (a b : Task) : (le key a b || le key b a) = true := by
  by_cases hbefore : key.Before b a
  · simp [le_iff.mpr hbefore.asymm]
  · simp [le_iff.mpr hbefore]

private theorem secondLe_trans (hab : secondLe a b = true) (hbc : secondLe b c = true) :
    secondLe a c = true := by
  rw [secondLe_iff] at *
  cases ha : a.due <;> cases hb : b.due <;> cases hc : c.due <;>
    simp [ha, hb, hc] at hab hbc ⊢ <;> omega

theorem le_trans (key : SortKey) (a b c : Task) (hab : le key a b = true)
    (hbc : le key b c = true) : le key a c = true := by
  cases key with
  | name =>
      rw [le_iff] at *
      exact List.le_trans (α := Char) hab hbc
  | created =>
      simp only [le, createdLe, decide_eq_true_eq] at *
      exact hab.trans hbc
  | due =>
      simp only [le, dueLe] at *
      cases hc : c.hasDue with
      | false => simp
      | true =>
          have hb : b.hasDue = true := by
            cases hb : b.hasDue <;> simp [hb, hc] at hbc ⊢
          have ha : a.hasDue = true := by
            cases ha : a.hasDue <;> simp [ha, hb] at hab ⊢
          simp only [ha, hb, hc, and_self, if_true] at hab hbc ⊢
          exact secondLe_trans hab hbc

end Order

/-- The places of tasks as a stable sort arranges them. Every place occurs once, and one stands in
front of another only if its task comes before the other one, or neither does and it is the place
further in front. -/
structure Arranges (key : SortKey) (tasks : List Task) (places : List Nat) : Prop where
  perm : places.Perm (List.range tasks.length)
  pairwise : places.Pairwise fun i j => ∀ a b, tasks[i]? = some a → tasks[j]? = some b →
    key.Before a b ∨ ¬ key.Before b a ∧ i < j

section Places

variable {key : SortKey} {field : Text} {tasks : List Task}

/-- The tasks in the order of a key, with the places that they had. -/
def byPlace (key : SortKey) (tasks : List Task) : List (Task × Nat) :=
  tasks.zipIdx.mergeSort fun a b => le key a.1 b.1

private theorem byPlace_perm : (byPlace key tasks).Perm tasks.zipIdx :=
  List.mergeSort_perm _ _

private theorem getElem?_of_mem_byPlace {entry : Task × Nat} (h : entry ∈ byPlace key tasks) :
    tasks[entry.2]? = some entry.1 :=
  List.mem_zipIdx_iff_getElem?.mp (byPlace_perm.mem_iff.mp h)

private theorem map_fst_byPlace : (byPlace key tasks).map Prod.fst = sortBy key tasks := by
  rw [byPlace, List.map_mergeSort (s := le key) fun _ _ _ _ => rfl, List.zipIdx_map_fst]
  rfl

/-- The places that are computed along with a sort are a stable arrangement. -/
theorem arranges_byPlace (key : SortKey) (tasks : List Task) :
    Arranges key tasks ((byPlace key tasks).map Prod.snd) := by
  have hplaces : tasks.zipIdx.Pairwise fun a b => a.2 < b.2 := by
    apply List.pairwise_map.mp
    rw [List.zipIdx_map_snd]
    exact List.pairwise_lt_range'
  have htrans : ∀ a b c : Task × Nat, le key a.1 b.1 = true → le key b.1 c.1 = true →
      le key a.1 c.1 = true := fun a b c => le_trans key a.1 b.1 c.1
  have htotal : ∀ a b : Task × Nat, (le key a.1 b.1 || le key b.1 a.1) = true :=
    fun a b => le_total key a.1 b.1
  have hstable := Sorting.pairwise_mergeSort_stable htrans htotal hplaces
  constructor
  · rw [List.range_eq_range', ← List.zipIdx_map_snd 0 tasks]
    exact byPlace_perm.map Prod.snd
  · rw [List.pairwise_map]
    apply hstable.imp_of_mem
    intro entry other hentry hother h a b ha hb
    rw [getElem?_of_mem_byPlace hentry, Option.some.injEq] at ha
    rw [getElem?_of_mem_byPlace hother, Option.some.injEq] at hb
    subst ha hb
    by_cases hbefore : key.Before entry.1 other.1
    · exact Or.inl hbefore
    · exact Or.inr ⟨le_iff.mp h.1, h.2 (le_iff.mpr hbefore)⟩

/-- The sorted tasks are those at the arranged places. -/
theorem map_some_sortBy : (sortBy key tasks).map some =
    ((byPlace key tasks).map Prod.snd).map fun place => tasks[place]? := by
  rw [← map_fst_byPlace, List.map_map, List.map_map]
  apply List.map_congr_left
  intro entry hentry
  exact (getElem?_of_mem_byPlace hentry).symm

private theorem usableKey_eq (hfield : Text.lower (Text.trim field) ∈ key.names)
    (hnames : ∀ task ∈ tasks, task.name.isSome = true)
    (hdues : key = .due → ∀ task ∈ tasks, task.due.isSome = true) :
    usableKey (some field) tasks = .ok key := by
  have hkey : requiredKey (some field) = .ok key := by
    simp [requiredKey, (SortKey.ofName?_eq_some_iff field key).mpr hfield]
  have hcomparable : areComparable tasks key = true := by
    cases key with
    | name => simpa [areComparable] using Or.inr hnames
    | created => rfl
    | due => simpa [areComparable] using Or.inl (hdues rfl)
  simp [usableKey, keyFault?, hkey, hcomparable, bind, Except.bind, pure, Except.pure]

/-- Tasks whose fields are there are sorted by every key, with their places as without. -/
theorem sort_eq (hfield : Text.lower (Text.trim field) ∈ key.names)
    (hnames : ∀ task ∈ tasks, task.name.isSome = true)
    (hdues : key = .due → ∀ task ∈ tasks, task.due.isSome = true) :
    sort (some field) tasks = .ok (sortBy key tasks) ∧
      sortPlaces (some field) tasks = .ok ((byPlace key tasks).map Prod.snd) := by
  have husable := usableKey_eq hfield hnames hdues
  constructor
  · rw [sort, husable]
    rfl
  · rw [sortPlaces, husable]
    rfl

/-- Sorting what is sorted changes nothing. -/
theorem sortBy_sortBy (key : SortKey) (tasks : List Task) :
    sortBy key (sortBy key tasks) = sortBy key tasks :=
  List.mergeSort_of_pairwise (List.pairwise_mergeSort (le_trans key) (le_total key) tasks)

end Places

/-- A task comes before another one, or may as well, by its due date, then by its priority and then
by its name. Without due dates the names decide. -/
def DueThenName (a b : Task) : Prop :=
  a.hasDue = true ∧ (b.hasDue = false ∨ a.due < b.due ∨ a.due = b.due ∧
      (b.priority.rank < a.priority.rank ∨
        a.priority = b.priority ∧ a.name.getD [] ≤ b.name.getD [])) ∨
    a.hasDue = false ∧ b.hasDue = false ∧ a.name.getD [] ≤ b.name.getD []

private theorem rank_injective : Function.Injective Priority.rank := by
  intro a b h
  cases a <;> cases b <;> simp [Priority.rank] at h ⊢

/-- Tasks that due dates and priorities do not tell apart have the same of both, or no due date. -/
private theorem tied_cases {a b : Task} (hab : ¬ SortKey.due.Before a b)
    (hba : ¬ SortKey.due.Before b a) :
    a.hasDue = true ∧ a.due = b.due ∧ a.priority = b.priority ∨
      a.hasDue = false ∧ b.hasDue = false := by
  cases ha : a.hasDue with
  | false =>
      cases hb : b.hasDue with
      | false => exact Or.inr ⟨rfl, rfl⟩
      | true => simp [SortKey.Before, ha, hb] at hba
  | true =>
      cases hb : b.hasDue with
      | false => simp [SortKey.Before, ha, hb] at hab
      | true =>
          simp only [SortKey.Before, ha, hb, true_and, Bool.true_eq_false, false_or] at hab hba
          have hdue : a.due = b.due := by
            cases hm : a.due <;> cases hn : b.due <;> simp [hm, hn] at hab hba ⊢; omega
          rw [hdue] at hab hba
          simp only [true_and, not_or, not_lt] at hab hba
          exact Or.inl ⟨rfl, hdue, rank_injective (le_antisymm hab.2 hba.2)⟩

private theorem dueThenName_of_le {a b : Task} (hdue : le .due a b = true)
    (hname : le .due b a = true → le .name a b = true) : DueThenName a b := by
  by_cases hbefore : SortKey.due.Before a b
  · obtain ⟨ha, hb | hlt | ⟨heq, hrank⟩⟩ := hbefore
    · exact Or.inl ⟨ha, Or.inl hb⟩
    · exact Or.inl ⟨ha, Or.inr (Or.inl hlt)⟩
    · exact Or.inl ⟨ha, Or.inr (Or.inr ⟨heq, Or.inl hrank⟩)⟩
  · have hnames : a.name.getD [] ≤ b.name.getD [] :=
      not_lt.mp (le_iff.mp (hname (le_iff.mpr hbefore)))
    rcases tied_cases hbefore (le_iff.mp hdue) with ⟨ha, heq, hpriority⟩ | ⟨ha, hb⟩
    · exact Or.inl ⟨ha, Or.inr (Or.inr ⟨heq, Or.inr ⟨hpriority, hnames⟩⟩)⟩
    · exact Or.inr ⟨ha, hb, hnames⟩

/-- The order of names is kept among the tasks that due dates do not tell apart. -/
theorem sortBy_due_sortBy_name (tasks : List Task) :
    (sortBy .due (sortBy .name tasks)).Pairwise DueThenName := by
  have hnamed : (sortBy .name tasks).Pairwise fun a b => le .name a b = true :=
    List.pairwise_mergeSort (le_trans .name) (le_total .name) tasks
  have hstable := Sorting.pairwise_mergeSort_stable (le_trans .due) (le_total .due) hnamed
  apply hstable.imp
  intro a b h
  exact dueThenName_of_le h.1 h.2

/-- Sorting is stable. Tasks with names, and for the order by due dates with due seconds, are sorted
under each name of each key. The result has the same tasks, arranged by their places as a stable sort
arranges them, and is sorted already. Sorting by name and then by due date orders by due date, by
priority and then by name. -/
theorem sort_stable {tasks : List Task} (hnames : ∀ task ∈ tasks, task.name.isSome = true) :
    (∀ (key : SortKey) (field : Text), Text.lower (Text.trim field) ∈ key.names →
      (key = .due → ∀ task ∈ tasks, task.due.isSome = true) →
      ∃ sorted places, sort (some field) tasks = .ok sorted ∧
        sortPlaces (some field) tasks = .ok places ∧ sorted.Perm tasks ∧
        Arranges key tasks places ∧
        (sorted.map some = places.map fun place => tasks[place]?) ∧
        sort (some field) sorted = .ok sorted) ∧
    ∀ byName byDue : Text, Text.lower (Text.trim byName) ∈ SortKey.name.names →
      Text.lower (Text.trim byDue) ∈ SortKey.due.names →
      (∀ task ∈ tasks, task.due.isSome = true) →
      ∃ named sorted, sort (some byName) tasks = .ok named ∧ sort (some byDue) named = .ok sorted ∧
        sorted.Perm tasks ∧ sorted.Pairwise DueThenName := by
  have hperm : ∀ key, (sortBy key tasks).Perm tasks := fun key => List.mergeSort_perm _ _
  have hsortedNames : ∀ key, ∀ task ∈ sortBy key tasks, task.name.isSome = true :=
    fun key task hmem => hnames task ((hperm key).mem_iff.mp hmem)
  constructor
  · intro key field hfield hdues
    have hsortedDues : key = .due → ∀ task ∈ sortBy key tasks, task.due.isSome = true :=
      fun hkey task hmem => hdues hkey task ((hperm key).mem_iff.mp hmem)
    obtain ⟨hsort, hplaces⟩ := sort_eq hfield hnames hdues
    obtain ⟨hagain, -⟩ := sort_eq hfield (hsortedNames key) hsortedDues
    rw [sortBy_sortBy] at hagain
    exact ⟨_, _, hsort, hplaces, hperm key, arranges_byPlace key tasks, map_some_sortBy, hagain⟩
  · intro byName byDue hbyName hbyDue hdues
    have hsortedDues : SortKey.due = .due → ∀ task ∈ sortBy .name tasks, task.due.isSome = true :=
      fun _ task hmem => hdues task ((hperm .name).mem_iff.mp hmem)
    obtain ⟨hnamed, -⟩ := sort_eq hbyName hnames nofun
    obtain ⟨hsorted, -⟩ := sort_eq hbyDue (hsortedNames .name) hsortedDues
    exact ⟨_, _, hnamed, hsorted, (List.mergeSort_perm _ _).trans (hperm .name),
      sortBy_due_sortBy_name tasks⟩

/-- Of three errands for the same time the urgent one goes first and the two others stay as they
were, in front of the one without a due date. -/
theorem sort_stable_errands :
    let call := { Task.ofName "call".toList with due := some 20 }
    let buy := Task.ofName "buy".toList
    let write := { Task.ofName "write".toList with due := some 20, priority := .high }
    let ask := { Task.ofName "ask".toList with due := some 20 }
    sort (some " Prio ".toList) [call, buy, write, ask] = .ok [write, call, ask, buy] ∧
      sort (some " Prio ".toList) [write, call, ask, buy] = .ok [write, call, ask, buy] := by
  intro call buy write ask
  have hfield : Text.lower (Text.trim " Prio ".toList) ∈ SortKey.due.names := by decide
  have hnames : ∀ task ∈ [call, buy, write, ask], task.name.isSome = true := by decide
  have hdues : SortKey.due = .due → ∀ task ∈ [call, buy, write, ask],
    task.due.isSome = true := by decide
  have hvalue : sortBy .due [call, buy, write, ask] = [write, call, ask, buy] := by
    have hfirst : le .due call buy = true ∧ le .due write ask = true := by decide
    have hsecond : le .due call write = false ∧ le .due call ask = true ∧
      le .due buy ask = false := by decide
    simp [sortBy, List.mergeSort, hfirst, hsecond]
  obtain ⟨hsort, -⟩ := sort_eq hfield hnames hdues
  rw [hvalue] at hsort
  obtain ⟨sorted, _, hsorted, _, _, _, _, hagain⟩ :=
    (sort_stable hnames).1 .due _ hfield hdues
  cases hsort.symm.trans hsorted
  exact ⟨hsort, hagain⟩

end Task

end Agenda
