import Agenda.Text.Blank
import Agenda.Text.Digit

/-!
Numbers in decimal notation, written and read.
-/

namespace Agenda.Text

/-- The decimal numeral of a number, without leading zeros. -/
def ofNat (n : Nat) : Text := Nat.toDigits 10 n

/-- The decimal numeral of an integer, with a sign only if it is negative. -/
def ofInt : Int → Text
  | .ofNat n => ofNat n
  | .negSucc n => '-' :: ofNat (n + 1)

/-- The text with zeros in front up to the width. -/
def zeroPadded (width : Nat) (t : Text) : Text := List.replicate (width - t.length) '0' ++ t

/-- The number written with the least number of digits. -/
def padded (width n : Nat) : Text := zeroPadded width (ofNat n)

/-- The number that a list of digit values writes. -/
def numberOf (digits : List Nat) : Nat := digits.foldl (fun n d => 10 * n + d) 0

/-- The number that digits `0` to `9` write. -/
def numberOfPlain (digits : Text) : Nat := numberOf (digits.map fun c => c.toNat - 48)

/-- The number of digits up to which a numeral is read. -/
def maxDigits : Nat := 4300

/-- The digit values of a numeral in which single low lines may stand between digits. -/
def groupedDigits : Text → Option (List Nat)
  | [] => none
  | [c] => (digitValue? c).map fun d => [d]
  | c :: '_' :: rest => do
    let d ← digitValue? c
    let more ← groupedDigits rest
    return d :: more
  | c :: rest => do
    let d ← digitValue? c
    let more ← groupedDigits rest
    return d :: more

/-- The integer that a text writes, blanks around it left out: a sign if any, then digits of any
script, with single low lines between them allowed. A numeral of too many digits is not read. -/
def toInt? (t : Text) : Option Int :=
  let read (digits : Text) : Option Int := do
    let values ← groupedDigits digits
    if values.length ≤ maxDigits then some (numberOf values) else none
  match trim t with
  | '-' :: rest => (read rest).map (- ·)
  | '+' :: rest => read rest
  | rest => read rest

end Agenda.Text
