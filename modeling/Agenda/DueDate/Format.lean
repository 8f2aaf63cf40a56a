import Agenda.Calendar.Names
import Agenda.Calendar.TimeOfDay
import Agenda.Text.Alphabet

/-!
Explicit due dates: texts that a fixed list of formats describes from start to end. A format is
a list of parts, and each part reads the longest or first of its spellings that lets the parts
after it read on.
-/

namespace Agenda.DueDate

open Calendar

inductive Part where
  | year
  | month
  | monthName
  | day
  | hour
  | minute
  | second
  | blanks
  | mark (c : Char)
  deriving DecidableEq, Repr

structure Fields where
  year : Nat := 1
  month : Nat := 1
  day : Nat := 1
  hour : Nat := 0
  minute : Nat := 0
  second : Nat := 0
  deriving DecidableEq, Repr

/-- A code point of a numeric spelling: any digit of any script, a digit `0` to `9` of a range, or
a space. -/
inductive Slot where
  | digit
  | between (first last : Char)
  | space

/-- The digit that a code point of a spelling stands for. A space stands for 0. -/
def Slot.value? : Slot → Char → Option Nat
  | .digit, c => Text.digitValue? c
  | .between first last, c => if first ≤ c ∧ c ≤ last then some (c.toNat - 48) else none
  | .space, c => if c = ' ' then some 0 else none

/-- The number that a spelling of the given slots writes at the start of a text. -/
def spelled? : List Slot → Nat → Text → Option (Nat × Text)
  | [], n, s => some (n, s)
  | _ :: _, _, [] => none
  | slot :: slots, n, c :: s =>
    match slot.value? c with
    | some d => spelled? slots (10 * n + d) s
    | none => none

/-- The spellings of a numeric part, in the order in which they are tried. -/
def Part.spellings : Part → List (List Slot)
  | .year => [[.digit, .digit, .digit, .digit]]
  | .month => [[.between '1' '1', .between '0' '2'], [.between '0' '0', .between '1' '9'],
      [.between '1' '9']]
  | .day => [[.between '3' '3', .between '0' '1'], [.between '1' '2', .digit],
      [.between '0' '0', .between '1' '9'], [.between '1' '9'], [.space, .between '1' '9']]
  | .hour => [[.between '2' '2', .between '0' '3'], [.between '0' '1', .digit], [.digit]]
  | .minute => [[.between '0' '5', .digit], [.digit]]
  | .second => [[.between '6' '6', .between '0' '1'], [.between '0' '5', .digit], [.digit]]
  | _ => []

def Fields.set (fields : Fields) (n : Nat) : Part → Fields
  | .year => { fields with year := n }
  | .month | .monthName => { fields with month := n }
  | .day => { fields with day := n }
  | .hour => { fields with hour := n }
  | .minute => { fields with minute := n }
  | .second => { fields with second := n }
  | .blanks | .mark _ => fields

/-- The rests of a text after one blank, two, and so on, the longest run of blanks first. -/
def afterBlanks : Text → List Text
  | [] => []
  | c :: s => if Text.isBlank c then afterBlanks s ++ [s] else []

/-- The ways to read a part at the start of a text, in the order in which they are tried. -/
def Part.read (part : Part) (fields : Fields) (s : Text) : List (Fields × Text) :=
  match part with
  | .blanks => (afterBlanks s).map fun rest => (fields, rest)
  | .mark c =>
    match s with
    | [] => []
    | d :: rest => if Text.foldChar d = Text.foldChar c then [(fields, rest)] else []
  | .monthName =>
    match monthNames.findIdx? fun name => name.take 3 == (s.take 3).map Text.foldChar with
    | some i => [(fields.set (i + 1) part, s.drop 3)]
    | none => []
  | part => (part.spellings.filterMap fun slots => spelled? slots 0 s).map fun (n, rest) =>
      (fields.set n part, rest)

/-- The ways to read parts in order, the one that is tried first in front. -/
def readParts : List Part → Fields → Text → List (Fields × Text)
  | [], fields, s => [(fields, s)]
  | part :: parts, fields, s =>
    (part.read fields s).flatMap fun (fields, rest) => readParts parts fields rest

/-- A format, and whether its time is universal instead of local midnight. -/
structure Format where
  parts : List Part
  universal : Bool

structure Stamp where
  date : Date
  time : TimeOfDay
  universal : Bool

/-- The date and time of a text in a format. The first way to read its parts must reach the end
of the text, and the fields must name a day and a second. -/
def Format.read? (format : Format) (s : Text) : Option Stamp := do
  let (fields, rest) ← (readParts format.parts {} s).head?
  guard (rest = [])
  let date ← Date.ofNumbers? fields.year fields.month fields.day
  let time ← (TimeOfDay.ofFields fields.hour fields.minute fields.second).toOption
  return ⟨date, time, format.universal⟩

/-- The formats in the order in which they are tried: a universal time in standard notation, a
date in standard notation, month, day and year, day, month and year, and the two with the name of
the month. -/
def formats : List Format :=
  [⟨[.year, .mark '-', .month, .mark '-', .day, .mark 'T', .hour, .mark ':', .minute, .mark ':',
      .second, .mark 'Z'], true⟩,
   ⟨[.year, .mark '-', .month, .mark '-', .day], false⟩,
   ⟨[.month, .mark '/', .day, .mark '/', .year], false⟩,
   ⟨[.day, .mark '/', .month, .mark '/', .year], false⟩,
   ⟨[.monthName, .blanks, .day, .mark ',', .blanks, .year], false⟩,
   ⟨[.day, .blanks, .monthName, .blanks, .year], false⟩]

/-- The date and time of a text in the first format that reads it. -/
def stamp? (s : Text) : Option Stamp := formats.findSome? fun format => format.read? s

end Agenda.DueDate
