import Agenda.Number.Count

/-!
Instants, counted in microseconds from the start of 1970 in universal time.
-/

namespace Agenda.Clock

open Number (Count)

/-- An instant, to the microsecond. -/
structure Instant where
  micros : Int
  deriving DecidableEq, Repr

namespace Instant

def ofSeconds (n : Int) : Instant := ⟨1000000 * n⟩

/-- The instant a number of seconds after the start of 1970. The fraction, in millionths and to 53
binary digits, is rounded to an integer. -/
def ofRat (seconds : Rat) : Instant :=
  let whole := Number.truncate seconds
  let fraction := Number.nearest ((seconds - whole) * 1000000)
  let millionths : Int := Number.roundHalfEven fraction.num.natAbs fraction.den
  ⟨1000000 * whole + (if fraction.num < 0 then -millionths else millionths)⟩

def ofCount : Count → Except Fault Instant
  | .finite seconds => .ok (ofRat seconds)
  | .infinite => .error .secondsTooWide
  | .undefined => .error .secondsUndefined

/-- The seconds before the instant, without the fraction. -/
def seconds (i : Instant) : Int := i.micros / 1000000

def fraction (i : Instant) : Nat := (i.micros % 1000000).toNat

end Instant

end Agenda.Clock
