import Agenda.Fault
import Agenda.Phrase.Tape
import Agenda.Text.Alphabet
import Agenda.Text.Letter

/-!
Scanners read a value from the start of what is ahead on a tape. A scanner that rejects it takes
nothing, so that several can be tried at the same place; a failure ends every attempt. On a text
the runs that are read are the longest ones of their class.
-/

namespace Agenda.Phrase

inductive Scanned (σ α : Type) where
  /-- A value was read, and the rest follows it. -/
  | accept (value : α) (rest : σ)
  | reject
  /-- The scan failed at the rest. -/
  | fault (cause : Fault) (rest : σ)

/-- A reader of values from the start of a tape. -/
def Scanner (σ α : Type) := σ → Scanned σ α

namespace Scanner

variable {σ α β : Type}

/-- Reads a value and goes on after it. -/
def andThen (p : Scanner σ α) (f : α → Scanner σ β) : Scanner σ β := fun s =>
  match p s with
  | .accept a rest => f a rest
  | .reject => .reject
  | .fault cause rest => .fault cause rest

instance : Monad (Scanner σ) where
  pure a := fun s => .accept a s
  bind := andThen

def fail : Scanner σ α := fun _ => .reject

/-- Goes on only if the condition holds. -/
def guard (condition : Bool) : Scanner σ Unit := if condition then pure () else fail

theorem guard_true (s : σ) : guard true s = .accept () s := rfl

theorem guard_false (s : σ) : guard false s = .reject := rfl

/-- Tries the first scanner, and the second where the first rejects. -/
def orElse (p q : Scanner σ α) : Scanner σ α := fun s =>
  match p s with
  | .reject => q s
  | outcome => outcome

/-- The value that is read, or none where the scanner rejects. -/
def optional (p : Scanner σ α) : Scanner σ (Option α) := orElse (some <$> p) (pure none)

variable [Tape σ]

/-- The code points ahead. Nothing is taken. -/
def ahead : Scanner σ Text := fun s =>
  match Tape.ahead s with
  | .ok t => .accept t s
  | .error cause => .fault cause s

/-- The number of code points of a class that come next. Nothing is taken. -/
def count (isOne : Char → Bool) : Scanner σ Nat := do
  return ((← ahead).takeWhile isOne).length

/-- The text of the next stretch. Nothing is taken. -/
def peek (n : Nat) : Scanner σ Text := fun s => .accept (Tape.stretch n s) s

/-- Moves over a stretch. -/
def pass (n : Nat) : Scanner σ Unit := fun s => .accept () (Tape.move n s)

/-- The text of the next stretch. -/
def take (n : Nat) : Scanner σ Text := do
  let found ← peek n
  pass n
  return found

/-- Skips blanks, if there are any. -/
def blanks : Scanner σ Unit := do pass (← count Text.isBlank)

/-- A given text, in any case. -/
def literal (expected : Text) : Scanner σ Unit := do
  let found ← take expected.length
  guard (Text.lower found = Text.lower expected)

def startsWithLetter : Text → Bool
  | [] => false
  | c :: _ => Text.isLetter c

/-- A given text, in any case, that no letter follows. -/
def keyword (expected : Text) : Scanner σ Unit := do
  literal expected
  guard (!startsWithLetter (← ahead))

/-- A run of letters, in lowercase. It may be empty. -/
def word : Scanner σ Text := do return Text.lower (← take (← count Text.isLetter))

/-- The number that digits write. There must be some, and not too many. -/
def numberOf (digits : Text) : Scanner σ Nat := fun s =>
  if digits = [] then .fault .numeralEmpty s
  else if Text.maxDigits < digits.length then .fault (.numeralTooLong digits.length) s
  else .accept (Text.numberOfPlain digits) s

/-- A run of digits `0` to `9`. -/
def numeral : Scanner σ Nat := do
  let n ← count Text.isPlainDigit
  guard (n ≠ 0)
  numberOf (← take n)

/-- The length of the longest common start. -/
def commonLength : Text → Text → Nat
  | a :: s, b :: t => if a = b then commonLength s t + 1 else 0
  | _, _ => 0

def minNameLength : Nat := 3

/-- The place in a list of the first name whose first letters start the word in front, in any
case. As much of the name is read as the word agrees with. -/
def nameIn (names : List Text) : Scanner σ Nat := do
  let word := Text.lower (← peek (← count Text.isLetter))
  guard (minNameLength ≤ word.length)
  match names.findIdx? fun name => (name.take minNameLength).isPrefixOf word with
  | some i =>
    pass (commonLength word (names.getD i []))
    return i
  | none => fail

/-- A run has the length that it is taken with. -/
theorem take_length_takeWhile {α : Type} (p : α → Bool) (l : List α) :
    l.take (l.takeWhile p).length = l.takeWhile p :=
  (List.prefix_iff_eq_take.1 (List.takeWhile_prefix p)).symm

theorem drop_length_takeWhile {α : Type} (p : α → Bool) (l : List α) :
    l.drop (l.takeWhile p).length = l.dropWhile p := by
  induction l with
  | nil => rfl
  | cons a l ih => by_cases h : p a <;> simp [h, ih]

/-- On a text, blanks are skipped up to the first code point that is none. -/
theorem blanks_text (s : Text) : blanks s = .accept () (Text.trimStart s) :=
  congrArg (Scanned.accept ()) (drop_length_takeWhile Text.isBlank s)

/-- On a text, a word is the longest run of letters in front. -/
theorem word_text (s : Text) :
    word s = .accept (Text.lower (s.takeWhile Text.isLetter)) (s.dropWhile Text.isLetter) := by
  rw [← take_length_takeWhile, ← drop_length_takeWhile]; rfl

/-- On a text, a given text is compared with the beginning. -/
theorem literal_text (expected s : Text) :
    literal expected s =
      if Text.lower (s.take expected.length) = Text.lower expected then
        .accept () (s.drop expected.length)
      else .reject := by
  change guard (decide (Text.lower (s.take expected.length) = _)) (s.drop _) = _
  split
  · next h => rw [decide_eq_true h, guard_true]
  · next h => rw [decide_eq_false h, guard_false]

/-- On a text, a numeral is the longest run of digits in front. -/
theorem numeral_text (s : Text) :
    numeral s =
      if s.takeWhile Text.isPlainDigit = [] then .reject
      else numberOf (s.takeWhile Text.isPlainDigit) (s.dropWhile Text.isPlainDigit) := by
  have h : numeral s =
      (guard (decide ((s.takeWhile Text.isPlainDigit).length ≠ 0))).andThen (fun _ t =>
        numberOf (t.take (s.takeWhile Text.isPlainDigit).length)
          (t.drop (s.takeWhile Text.isPlainDigit).length)) s := rfl
  rw [h]
  split
  · next h => simp [h, andThen, guard_false]
  · next h => simp [h, andThen, guard_true, take_length_takeWhile, drop_length_takeWhile]

end Scanner

end Agenda.Phrase
