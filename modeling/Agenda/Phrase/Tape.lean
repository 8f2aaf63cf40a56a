import Agenda.Fault

/-!
What scanners read from: something that shows the code points ahead, gives out a stretch of them as
a text, and can be moved on. A text shows itself, and its stretches are its beginnings.
-/

namespace Agenda.Phrase

/-- A place from which code points are read. -/
class Tape (σ : Type) where
  /-- The code points ahead, unless the place lies where there are none to come. -/
  ahead : σ → Except Fault Text
  /-- The text of a stretch of so many code points from here. -/
  stretch : Nat → σ → Text
  /-- The place so many code points further on. -/
  move : Nat → σ → σ

instance : Tape Text where
  ahead s := .ok s
  stretch n s := s.take n
  move n s := s.drop n

end Agenda.Phrase
