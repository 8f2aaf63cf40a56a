import Agenda.Fault
import Agenda.Number.Binary

/-!
Counts as they are measured: a number, or a sign that there was none. A count of seconds that is
written with a fraction has 53 binary digits, and one that is written as an integer is exact.
-/

namespace Agenda.Number

/-- A measured count. -/
inductive Count where
  | finite (value : Rat)
  /-- A count beyond all numbers, on either side. -/
  | infinite
  | undefined
  deriving DecidableEq, Repr

namespace Count

def ofInt (n : Int) : Count := .finite n

/-- The least power of two that is beyond all numbers of 53 binary digits. -/
def beyond : Rat := mkRat (Nat.pow 2 1024) 1

/-- The count of a number that is brought to 53 binary digits. -/
def ofRat (q : Rat) : Count :=
  let value := nearest q
  if beyond ≤ value ∨ value ≤ -beyond then .infinite else .finite value

/-- The integer between a count and 0 that is nearest to the count. -/
def whole : Count → Except Fault Int
  | finite value => .ok (truncate value)
  | infinite => .error .infiniteInteger
  | undefined => .error .undefinedInteger

end Count

end Agenda.Number
