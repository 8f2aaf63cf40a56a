import Agenda.Fault

/-!
Texts as bytes.
-/

namespace Agenda.Text

/-- The text that bytes encode in UTF-8, if they do. -/
def ofBytes? (bytes : ByteArray) : Option Text := (String.fromUTF8? bytes).map String.toList

/-- The bytes that encode a text in UTF-8. -/
def toBytes (t : Text) : ByteArray := (String.ofList t).toUTF8

/-- The number of bytes that encode a text. -/
def byteCount (t : Text) : Nat := (toBytes t).size

variable {α : Type} [Alphabet α]

/-- The characters of a text in any alphabet, if it has nothing else. -/
def chars? (t : List α) : Option Text := t.mapM Alphabet.char?

/-- The bytes that encode a text of any alphabet. Only characters are encoded; otherwise the first
run of other code points is refused. -/
def encode (t : List α) : Except Fault ByteArray :=
  match chars? t with
  | some s => .ok (toBytes s)
  | none =>
    let isChar (c : α) : Bool := (Alphabet.char? c).isSome
    let front := t.takeWhile isChar
    let run := (t.drop front.length).takeWhile fun c => !isChar c
    .error (.notEncodable ((run.head?.map fun c => (Alphabet.point c).number).getD 0)
      front.length run.length)

end Agenda.Text
