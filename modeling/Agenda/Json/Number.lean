import Agenda.Json.Reader
import Agenda.Number.Count

/-!
The values of JSON numbers.
-/

namespace Agenda.Json

def signAt (s : Text) : Int × Text :=
  match s with
  | '-' :: rest => (-1, rest)
  | '+' :: rest => (1, rest)
  | rest => (1, rest)

/-- The integer of a literal without fraction and exponent. -/
def integer? (literal : Text) : Option Int :=
  let (sign, rest) := signAt literal
  let (digits, rest) := digitsAt rest
  if rest = [] ∧ digits ≠ [] then some (sign * Text.numberOfPlain digits) else none

def rationalOf (literal : Text) : Rat :=
  let (sign, rest) := signAt literal
  let (whole, rest) := digitsAt rest
  let (fraction, rest) := fractionAt rest
  let fraction := fraction.drop 1
  let (power, digits) := signAt (rest.drop 1)
  let exponent := power * (Text.numberOfPlain digits : Int) - (fraction.length : Int)
  let mantissa := sign * (Text.numberOfPlain (whole ++ fraction) : Int)
  if 0 ≤ exponent then mkRat (mantissa * Nat.pow 10 exponent.toNat) 1
  else mkRat mantissa (Nat.pow 10 (-exponent).toNat)

def countOf (literal : Text) : Number.Count :=
  if literal = "NaN".toList then .undefined
  else if (["Infinity", "-Infinity"].map String.toList).contains literal then .infinite
  else
    match integer? literal with
    | some n => .ofInt n
    | none => .ofRat (rationalOf literal)

end Agenda.Json
