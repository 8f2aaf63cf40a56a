import Agenda.Text.Alphabet

/-!
Blanks: the white space of every script, the four information separators included. The zero
width space is not a blank.
-/

namespace Agenda.Text

def blankRanges : List (Nat × Nat) :=
  [(0x9, 0xd), (0x1c, 0x20), (0x85, 0x85), (0xa0, 0xa0), (0x1680, 0x1680), (0x2000, 0x200a),
   (0x2028, 0x2029), (0x202f, 0x202f), (0x205f, 0x205f), (0x3000, 0x3000)]

section

variable {α : Type} [Alphabet α]

/-- A space, tab, line end or another separating code point. -/
def isBlank (c : α) : Bool := (Alphabet.char? c).any fun c => covers blankRanges c.toNat

def trimStart (t : List α) : List α := t.dropWhile isBlank

def trimEnd (t : List α) : List α := t.reverse.dropWhile isBlank |>.reverse

def trim (t : List α) : List α := trimEnd (trimStart t)

/-- Nothing but blanks, or nothing at all. -/
def isBlankText (t : List α) : Bool := t.all isBlank

end

theorem isBlank_char (c : Char) : isBlank c = covers blankRanges c.toNat := rfl

/-- The words of a text whose first word goes on if `inWord`. -/
def wordsFrom (inWord : Bool) : Text → List Text
  | [] => if inWord then [[]] else []
  | c :: rest =>
    if isBlank c then
      if inWord then [] :: wordsFrom false rest else wordsFrom false rest
    else
      match wordsFrom true rest with
      | [] => [[c]]
      | word :: more => (c :: word) :: more

/-- The longest runs without a blank, in order. -/
def words (t : Text) : List Text := wordsFrom false t

end Agenda.Text
