import Agenda.Text.Quoted

/-!
Writing JSON: strings, and objects of strings with one field a line. A text is written in its own
alphabet: what is no character stands for itself.
-/

namespace Agenda.Json

/-- A character inside a string. Marks, backslashes and controls are escaped. -/
def escapeChar (c : Char) : Text :=
  if c = '"' then ['\\', '"']
  else if c = '\\' then ['\\', '\\']
  else if c = '\n' then ['\\', 'n']
  else if c = '\r' then ['\\', 'r']
  else if c = '\t' then ['\\', 't']
  else if c = '\x0c' then ['\\', 'f']
  else if c = '\x08' then ['\\', 'b']
  else if c.toNat < 32 then '\\' :: 'u' :: Text.hex 4 c.toNat
  else [c]

variable {α : Type} [Alphabet α]

/-- A code point inside a string. -/
def escape (c : α) : List α :=
  match Alphabet.char? c with
  | some c => Text.spell (escapeChar c)
  | none => [c]

theorem escape_ofChar (c : Char) : escape (Alphabet.ofChar c : α) = Text.spell (escapeChar c) := by
  rw [escape, Alphabet.char?_eq_some_iff.mpr rfl]

@[simp] theorem escape_char : (escape : Char → Text) = escapeChar :=
  funext fun _ => Text.spell_char _

def quote (t : List α) : List α := Text.spell ['"'] ++ t.flatMap escape ++ Text.spell ['"']

/-- A field as it stands on its line. -/
def fieldLine (field : List α × List α) : List α :=
  Text.spell [' ', ' '] ++ quote field.1 ++ Text.spell [':', ' '] ++ quote field.2

/-- An object of strings: a field a line, indented by two spaces, or two braces if there is no
field. -/
def writeFields (fields : List (List α × List α)) : List α :=
  if fields.isEmpty then Text.spell ['\x7b', '\x7d']
  else
    Text.spell ['\x7b', '\n'] ++ Text.join (Text.spell [',', '\n']) (fields.map fieldLine) ++
      Text.spell ['\n', '\x7d']

end Agenda.Json
