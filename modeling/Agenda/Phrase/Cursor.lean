import Agenda.Phrase.Grammar
import Agenda.Text.Quoted

/-!
Cursors: a text with a position in it. A negative position counts from the end of the text; what is
ahead of it is the end of the text and then the whole text, since the position goes on to 0 from
there. A stretch is cut out of the text between two positions, and is empty if its end does not come
after its start in the text.
-/

namespace Agenda.Phrase

/-- A text and a position, which counts code points from the start or, below 0, from the end. -/
structure Cursor where
  text : Text
  pos : Int
  deriving DecidableEq, Repr

namespace Cursor

/-- The number of code points in front of a position. There are none in front of a position before
the start. -/
def inFront (c : Cursor) (pos : Int) : Nat :=
  if pos < 0 then (c.text.length + pos).toNat else pos.toNat

def rest (c : Cursor) : Text := c.text.drop (c.inFront c.pos)

def between (c : Cursor) (start stop : Int) : Text :=
  (c.text.take (c.inFront stop)).drop (c.inFront start)

/-- Positions below 0 that fit a machine word. -/
def fitsPosition (pos : Int) : Bool := decide (-9223372036854775808 ≤ pos)

instance : Tape Cursor where
  ahead c :=
    if 0 ≤ c.pos then .ok c.rest
    else if 0 ≤ c.text.length + c.pos then .ok (c.rest ++ c.text)
    else if fitsPosition c.pos then .error .positionOutside
    else .error .positionTooWide
  stretch n c := c.between c.pos (c.pos + n)
  move n c := { c with pos := c.pos + n }

def atEnd (c : Cursor) : Bool := decide ((c.text.length : Int) ≤ c.pos)

/-- The next code point, or nothing at the end. -/
def peek (c : Cursor) : Except Fault Text := do return (← Tape.ahead c).take 1

/-- Moves up to a rest of what has not been read. -/
def upTo (rest : Text) (c : Cursor) : Cursor :=
  { c with pos := c.pos + (c.rest.length - rest.length : Nat) }

/-- The outcome of a scan that leaves a cursor, which is the old one if the scan rejects. -/
def settle {α : Type} (c : Cursor) : Scanned Cursor α → Except Fault (Option α) × Cursor
  | .accept value next => (.ok (some value), next)
  | .reject => (.ok none, c)
  | .fault cause next => (.error cause, next)

/-- The outcome of a scan of the rest, with the rest that it leaves turned into a cursor. -/
def locate {α : Type} (c : Cursor) : Scanned Text α → Scanned Cursor α
  | .accept value rest => .accept value (c.upTo rest)
  | .reject => .reject
  | .fault cause rest => .fault cause (c.upTo rest)

/-- Moves past what a scanner reads. From a position within the text it reads the rest of the text,
and from a negative one what is ahead of the cursor. -/
def scan {α : Type} (p : {σ : Type} → [Tape σ] → Scanner σ α) (c : Cursor) :
    Except Fault (Option α) × Cursor :=
  c.settle (if 0 ≤ c.pos then c.locate (p c.rest) else p c)

/-- Moves past a given text, in any case, by as many code points as it has. -/
def pass (expected : Text) (c : Cursor) : Bool × Cursor :=
  match Scanner.literal expected c with
  | .accept _ next => (true, next)
  | _ => (false, c)

/-- Moves past a given text that no letter follows. -/
def passKeyword (expected : Text) (c : Cursor) : Except Fault Bool × Cursor :=
  match Scanner.keyword expected c with
  | .accept _ next => (.ok true, next)
  | .reject => (.ok false, c)
  | .fault cause next => (.error cause, next)

/-- The text and the position, in words. -/
def describe (c : Cursor) : Text :=
  "Cursor(".toList ++ Text.quoted c.text ++ ", pos=".toList ++ Text.ofInt c.pos ++ [')']

end Cursor

end Agenda.Phrase
