import Agenda.Clock.Anchor

/-!
The standard notation of dates and times: year, month and day with hyphens, a `T`, hour, minute
and second with colons, and a fraction of the second after a point.
-/

namespace Agenda.Clock

open Calendar

def number? (digits : Text) : Option Nat :=
  if digits ≠ [] ∧ digits.all Text.isPlainDigit then some (Text.numberOfPlain digits) else none

def dateOfText? (t : Text) : Option Date :=
  match Text.pieces '-' t with
  | [year, month, day] => do Date.ofNumbers? (← number? year) (← number? month) (← number? day)
  | _ => none

def timeOfText? (t : Text) : Option TimeOfDay :=
  match Text.pieces ':' t with
  | [hour, minute, second] => do
    let fields := ((← number? hour), (← number? minute), (← number? second))
    (TimeOfDay.ofFields fields.1 fields.2.1 fields.2.2).toOption
  | _ => none

namespace LocalTime

/-- The local time in standard notation. A fraction of zero is left out. -/
def text (t : LocalTime) : Text :=
  t.date.text ++ 'T' :: t.time.text ++ if t.micro = 0 then [] else '.' :: Text.padded 6 t.micro

/-- The local time that standard notation writes. Digits of the fraction after the sixth are
left out. -/
def ofText? (t : Text) : Option LocalTime := do
  let [date, clock] := Text.pieces 'T' t | none
  let date ← dateOfText? date
  let (clock, fraction) ← match Text.pieces '.' clock with
    | [clock] => some (clock, [])
    | [clock, fraction] => some (clock, fraction)
    | _ => none
  let time ← timeOfText? clock
  let micro ← number? ((fraction ++ List.replicate 6 '0').take 6)
  return .withMicros date time micro false

end LocalTime

/-- The microseconds that an offset of hours and minutes writes. -/
def offsetOfText? (t : Text) : Option Int :=
  match Text.pieces ':' t with
  | [hours, minutes] => do
    return 60000000 * (60 * (← number? hours) + (← number? minutes))
  | _ => none

namespace Anchor

/-- The anchor that standard notation writes: a local time, or, with an offset or a `Z` at the
end, the local time of a place at that offset. -/
def ofText? (t : Text) : Option Anchor :=
  let (head, tail) := (t.take 19, t.drop 19)
  let fraction := tail.takeWhile fun c => c == '.' || Text.isPlainDigit c
  let time := LocalTime.ofText? (head ++ fraction)
  match tail.drop fraction.length with
  | [] => do return .localTime (← time)
  | ['Z'] => do return .elsewhere (← time) 0
  | '+' :: offset => do return .elsewhere (← time) (← offsetOfText? offset)
  | '-' :: offset => do return .elsewhere (← time) (-(← offsetOfText? offset))
  | _ => none

end Anchor

end Agenda.Clock
