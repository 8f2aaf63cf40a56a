import Agenda.Fault
import Agenda.Text.Basic
import Agenda.Text.Entries

/-!
Paths of files. Empty parts and parts of one dot do not count, and exactly two slashes in front
are kept apart from one.
-/

namespace Agenda.Files

/-- A path: the slashes in front, of which there are none to two, and the parts. -/
structure Path where
  root : Text
  parts : List Text
  deriving DecidableEq, Repr

namespace Path

def ofText (t : Text) : Path :=
  let slashes := (t.takeWhile (· == '/')).length
  let root := if slashes = 0 then [] else if slashes = 2 then ['/', '/'] else ['/']
  ⟨root, (Text.pieces '/' t).filter fun part => part ≠ [] ∧ part ≠ ['.']⟩

/-- The path as it is written: a dot if it has neither slashes nor parts. -/
def text (p : Path) : Text :=
  if p.root = [] ∧ p.parts = [] then ['.'] else p.root ++ Text.join ['/'] p.parts

def parent (p : Path) : Path := { p with parts := p.parts.dropLast }

def child (p : Path) (part : Text) : Path := { p with parts := p.parts ++ [part] }

/-- The name without its suffix. The suffix starts at the last dot, unless that comes first or
last. -/
def stem (name : Text) : Text :=
  let suffix := (name.reverse.takeWhile (· != '.')).length + 1
  if 1 < suffix ∧ suffix < name.length then name.take (name.length - suffix) else name

/-- The path with another suffix on its last part. -/
def withSuffix (suffix : Text) (p : Path) : Except Fault Path :=
  match p.parts.getLast? with
  | some name => .ok (p.parent.child (stem name ++ suffix))
  | none => .error (.namelessPath p.text)

/-- Users with their homes. The empty name stands for the user of the program. -/
abbrev Homes := List (Text × Text)

/-- A home without slashes at its end, as a path. -/
def ofHome? (home : Text) : Option Path :=
  let trimmed := (home.reverse.dropWhile (· == '/')).reverse
  if trimmed.head? = some '~' then none
  else some (ofText (if trimmed = [] then ['/'] else trimmed))

/-- The path with a home in place of a first part that starts with a tilde. -/
def expandHome (homes : Homes) (p : Path) : Except Fault Path :=
  match p.root, p.parts with
  | [], ('~' :: user) :: rest =>
    match (Text.entry? user homes).bind ofHome? with
    | some base => .ok { base with parts := base.parts ++ rest }
    | none => .error .homeUnknown
  | _, _ => .ok p

end Path

end Agenda.Files
