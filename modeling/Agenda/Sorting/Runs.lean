/-!
Sorting with comparisons that may fail. The list is cut into runs that are in order already or are
made so, and neighbouring runs are merged along a tree of halvings. Which comparisons are made, and
in which order, is fixed by this, and the first one that fails ends the sort with its cause.
-/

namespace Agenda.Sorting

/-- A test that one item must stand before another. It may fail. -/
abbrev Precedence (ε α : Type) := α → α → Except ε Bool

variable {ε α : Type}

/-- The items after `last` that descend strictly, and the rest. -/
def descending (before : Precedence ε α) (last : α) : List α → Except ε (List α × List α)
  | [] => return ([], [])
  | x :: rest => do
    if ← before x last then
      let (run, rest) ← descending before x rest
      return (x :: run, rest)
    else return ([], x :: rest)

/-- The items after `last` of which none must stand before the one in front of it, and the
rest. -/
def ascending (before : Precedence ε α) (last : α) : List α → Except ε (List α × List α)
  | [] => return ([], [])
  | x :: rest => do
    if ← before x last then return ([], x :: rest)
    else
      let (run, rest) ← ascending before x rest
      return (x :: run, rest)

/-- The longest run at the start of a list, and the rest. A run that descends is turned round. -/
def naturalRun (before : Precedence ε α) : List α → Except ε (List α × List α)
  | [] => return ([], [])
  | [x] => return ([x], [])
  | x :: y :: rest => do
    if ← before y x then
      let (run, rest) ← descending before y rest
      return ((x :: y :: run).reverse, rest)
    else
      let (run, rest) ← ascending before y rest
      return (x :: y :: run, rest)

/-- The run with one more item, behind the items that are equal to it. Its place is looked for by
halving the run. -/
def insert (before : Precedence ε α) (x : α) (run : List α) : Except ε (List α) :=
  match _split : run.drop (run.length / 2) with
  | [] => return [x]
  | middle :: high => do
    let low := run.take (run.length / 2)
    if ← before x middle then return (← insert before x low) ++ middle :: high
    else return low ++ middle :: (← insert before x high)
termination_by run.length
decreasing_by
  all_goals
    have split := congrArg List.length _split
    simp only [List.length_drop, List.length_cons, List.length_take] at split ⊢
    omega

/-- The run with up to `n` more items, which are taken from the rest. -/
def extend (before : Precedence ε α) (run : List α) : Nat → List α → Except ε (List α × List α)
  | n + 1, x :: rest => do extend before (← insert before x run) n rest
  | _, rest => return (run, rest)

/-- Two runs merged into one. Of equal items those of the first run go first. -/
def merge (before : Precedence ε α) : List α → List α → Except ε (List α)
  | [], ys => return ys
  | xs, [] => return xs
  | x :: xs, y :: ys => do
    if ← before y x then return y :: (← merge before (x :: xs) ys)
    else return x :: (← merge before xs (y :: ys))
termination_by xs ys => xs.length + ys.length

/-- The least length of a run in a list of `n` items. In a long list it lies between 32 and 64, so
that the number of runs is close to a power of two. -/
def leastRun (n : Nat) : Nat :=
  if n < 64 then n
  else
    let step := Nat.pow 2 (n.log2 - 5)
    (n + step - 1) / step

/-- A run that waits to be merged: the number of items in front of it, the items, and the depth at
which it is joined to the run after it. -/
structure Run (α : Type) where
  start : Nat
  items : List α
  depth : Nat

namespace Run

/-- A run merged with its right neighbour. -/
def join (before : Precedence ε α) (left right : Run α) : Except ε (Run α) := do
  return { left with items := ← merge before left.items right.items }

end Run

/-- The depth at which two neighbouring runs are joined when `total` items are halved again and
again: the halving that parts their middles. The middles are given twice over. -/
def joinDepth (total left right : Nat) : Nat :=
  1 + (List.range (total.log2 + 1)).findIdx fun k =>
    left * Nat.pow 2 k / total != right * Nat.pow 2 k / total

/-- The last run merged with those before it that are joined deeper than the given depth. -/
def settle (before : Precedence ε α) (depth : Nat) (last : Run α) :
    List (Run α) → Except ε (Run α × List (Run α))
  | [] => return (last, [])
  | left :: rest => do
    if depth < left.depth then settle before depth (← left.join before last) rest
    else return (last, left :: rest)

/-- The waiting runs, the last in front, with one more. -/
def push (before : Precedence ε α) (total : Nat) (items : List α) :
    List (Run α) → Except ε (List (Run α))
  | [] => return [⟨0, items, 0⟩]
  | last :: rest => do
    let middle := 2 * last.start + last.items.length
    let depth := joinDepth total middle (middle + last.items.length + items.length)
    let (last, rest) ← settle before depth last rest
    return ⟨last.start + last.items.length, items, 0⟩ :: { last with depth := depth } :: rest

/-- The waiting runs with those of a list. Every step takes at least one of the `n` items. -/
def cut (before : Precedence ε α) (total : Nat) :
    Nat → List (Run α) → List α → Except ε (List (Run α))
  | n + 1, waiting, x :: items => do
    let (run, rest) ← naturalRun before (x :: items)
    let (run, rest) ← extend before run (leastRun total - run.length) rest
    cut before total n (← push before total run waiting) rest
  | _, waiting, _ => return waiting

/-- The items of all waiting runs, in order. The last run but one goes to its smaller
neighbour. -/
def collapse (before : Precedence ε α) (last : Run α) : List (Run α) → Except ε (List α)
  | [] => return last.items
  | [left] => merge before left.items last.items
  | left :: next :: rest => do
    if next.items.length < last.items.length then
      collapse before last ((← next.join before left) :: rest)
    else collapse before (← left.join before last) (next :: rest)
termination_by waiting => waiting.length

/-- The items in order, equal ones in their old order, or the cause of the first comparison that
fails. -/
def sort (before : Precedence ε α) (items : List α) : Except ε (List α) := do
  match ← cut before items.length items.length [] items with
  | [] => return []
  | last :: rest => collapse before last rest

end Agenda.Sorting
