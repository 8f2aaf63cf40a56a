/-!
Texts and tables of code points. A text is the list of its code points, so every position and
length in this library counts code points.
-/

namespace Agenda

/-- A text, as the list of its code points. -/
abbrev Text := List Char

namespace Text

/-- A table of ascending ranges holds the code point. The search ends at the first range that
starts above it. -/
def covers : List (Nat × Nat) → Nat → Bool
  | [], _ => false
  | (first, last) :: rest, n => decide (first ≤ n) && (decide (n ≤ last) || covers rest n)

/-- The needle stands somewhere in the text, without a gap. -/
def occursIn (needle : Text) : Text → Bool
  | [] => needle.isPrefixOf []
  | c :: rest => needle.isPrefixOf (c :: rest) || occursIn needle rest

/-- The texts in order with the separator between neighbours. -/
def join {α : Type} (separator : List α) (parts : List (List α)) : List α :=
  separator.intercalate parts

/-- The pieces between the occurrences of a separating code point, empty ones included. -/
def pieces (separator : Char) : Text → List Text
  | [] => [[]]
  | c :: rest =>
    if c = separator then [] :: pieces separator rest
    else
      match pieces separator rest with
      | [] => [[c]]
      | piece :: more => (c :: piece) :: more

end Text

end Agenda
