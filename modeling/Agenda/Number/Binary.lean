/-!
Numbers of 53 binary digits. A measured or computed count of seconds is kept to that precision:
the exact value is replaced by the nearest such number, an even last digit winning a tie.
-/

namespace Agenda.Number

/-- The integer nearest to a quotient, the even one if two are. -/
def roundHalfEven (n d : Nat) : Nat :=
  let floor := n / d
  let rest := n % d
  if 2 * rest < d then floor else if d < 2 * rest then floor + 1 else floor + floor % 2

/-- A quotient scaled by a power of two. -/
def scaled (n d : Nat) (power : Int) : Nat × Nat :=
  if 0 ≤ power then (n * Nat.pow 2 power.toNat, d) else (n, d * Nat.pow 2 (-power).toNat)

/-- The number of 53 binary digits nearest to a quotient. The quotient is scaled to lie between
`2 ^ 52` and `2 ^ 53`, rounded to an integer, and scaled back. -/
def nearestQuotient (n d : Nat) : Rat :=
  if n = 0 then 0
  else
    let guess : Int := 52 - ((n.log2 : Int) - (d.log2 : Int))
    let (a, b) := scaled n d guess
    let power := if a / b < Nat.pow 2 52 then guess + 1 else guess
    let (a, b) := scaled n d power
    let (p, q) := scaled (roundHalfEven a b) 1 (-power)
    mkRat p q

def nearest (q : Rat) : Rat :=
  if q.num < 0 then -nearestQuotient q.num.natAbs q.den else nearestQuotient q.num.natAbs q.den

/-- The integer between a rational and 0 that is nearest to the rational. -/
def truncate (q : Rat) : Int := q.num.tdiv q.den

end Agenda.Number
