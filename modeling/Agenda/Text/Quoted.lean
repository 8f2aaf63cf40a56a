import Agenda.Text.Numeral
import Agenda.Text.Printable

/-!
Quoted texts: a text between quotation marks, with escapes for what would not show as itself.
-/

namespace Agenda.Text

/-- The hexadecimal numeral of a number, with zeros in front up to the width. -/
def hex (width n : Nat) : Text := zeroPadded width (Nat.toDigits 16 n)

/-- A code point between the given quotation marks. The mark itself and the backslash are
escaped, and so is what does not print: by a letter for tab and line ends, else by number. -/
def quotedChar (mark c : Char) : Text :=
  if c = mark ∨ c = '\\' then ['\\', c]
  else if c = '\n' then ['\\', 'n']
  else if c = '\r' then ['\\', 'r']
  else if c = '\t' then ['\\', 't']
  else if isPrintable c then [c]
  else if c.toNat < 0x100 then '\\' :: 'x' :: hex 2 c.toNat
  else if c.toNat < 0x10000 then '\\' :: 'u' :: hex 4 c.toNat
  else '\\' :: 'U' :: hex 8 c.toNat

section

variable {α : Type} [Alphabet α]

/-- A text in characters, with an escape by number for a code point that is none. -/
def shown (t : List α) : Text :=
  t.flatMap fun c =>
    match Alphabet.point c with
    | .char c => [c]
    | .half n _ => '\\' :: 'u' :: hex 4 n

def holds (c : Char) (t : List α) : Bool := t.any fun d => Alphabet.char? d = some c

/-- The text between apostrophes, or between double quotation marks if it holds apostrophes and
no such mark. -/
def quoted (t : List α) : Text :=
  let mark := if holds '\'' t && !holds '"' t then '"' else '\''
  let inside := t.flatMap fun c =>
    match Alphabet.point c with
    | .char c => quotedChar mark c
    | .half n _ => '\\' :: 'u' :: hex 4 n
  mark :: inside ++ [mark]

end

/-- The quoted texts between brackets, with commas between them. -/
def quotedList (ts : List Text) : Text :=
  '[' :: join [',', ' '] (ts.map quoted) ++ [']']

/-- The quoted text, or the word for a missing one. -/
def quoted? : Option Text → Text
  | some t => quoted t
  | none => "None".toList

end Agenda.Text
