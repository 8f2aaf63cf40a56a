import Agenda.Filter.Basic

/-!
Tokens: filters in one line. Named conditions stand in brackets, as kind, colon and value, and
may stand anywhere; what is left of the line is a text to search for. A line that is a kind, a
colon and a word as a whole is that condition without brackets.
-/

namespace Agenda.Filter

/-- The code point agrees with a lowercase letter if case is left out of account. A dotless `i`
and a long `s` agree with their plain forms. -/
def agrees (expected c : Char) : Bool :=
  Text.foldChar c == expected || (expected == 'i' && c == '\u0131') ||
    (expected == 's' && c == '\u017f')

variable {α : Type} [Alphabet α]

/-- The start of a text that agrees with a name, and the rest. -/
def nameAt? : Text → List α → Option (Text × List α)
  | [], s => some ([], s)
  | _ :: _, [] => none
  | expected :: more, c :: s =>
    match Alphabet.char? c with
    | some c =>
      if agrees expected c then (nameAt? more s).map fun (found, rest) => (c :: found, rest)
      else none
    | none => none

/-- The name of a kind at the start of a text, as it is written, and the rest after a colon and
the blanks around it. -/
def kindAt? (s : List α) : Option (Text × List α) := do
  let (found, rest) ← FilterKind.all.findSome? fun kind => nameAt? kind.name s
  let rest ← Alphabet.behind? ':' (Text.trimStart rest)
  return (found, Text.trimStart rest)

/-- A code point does not close a condition. -/
def isOpen (c : α) : Bool := Alphabet.char? c != some ']'

/-- A condition in brackets at the start of a text: kind and value as they are written, and the
number of code points it takes. -/
def bracketAt? (s : List α) : Option (Text × List α × Nat) := do
  let inside ← Alphabet.behind? '[' s
  let (kind, rest) ← kindAt? (Text.trimStart inside)
  let after ← Alphabet.behind? ']' (rest.dropWhile isOpen)
  return (kind, Text.trimEnd (rest.takeWhile isOpen), s.length - after.length)

/-- A piece of a token: a condition in brackets, or a code point outside of them. -/
inductive Piece (α : Type := Char) where
  | directive (kind : Text) (value : List α)
  | char (c : α)
  deriving DecidableEq, Repr

/-- The pieces of a token after some code points that are left out. -/
def piecesAfter : Nat → List α → List (Piece α)
  | _, [] => []
  | skip + 1, _ :: s => piecesAfter skip s
  | 0, c :: s =>
    match bracketAt? (c :: s) with
    | some (kind, value, length) => .directive kind value :: piecesAfter (length - 1) s
    | none => .char c :: piecesAfter 0 s

def pieces (s : List α) : List (Piece α) := piecesAfter 0 s

/-- What a piece leaves of the line: a space in place of a condition. -/
def Piece.remnant : Piece α → α
  | .directive _ _ => Alphabet.ofChar ' '
  | .char c => c

def directives : List (Piece α) → Except Fault (List (Predicate α))
  | [] => return []
  | .char _ :: rest => directives rest
  | .directive kind value :: rest => do
    let p ← Predicate.ofDirective kind value
    return p :: (← directives rest)

/-- The line as a whole is a kind, a colon and a word. -/
def bare? (s : List α) : Option (Text × List α) := do
  let (kind, value) ← kindAt? s
  if value.isEmpty ∨ value.any Text.isBlank then none else some (kind, value)

/-- The condition of what is left of the line. -/
def remainder (rest : List α) : Except Fault (List (Predicate α)) :=
  if rest.isEmpty then return []
  else
    match bare? rest with
    | some (kind, value) => do return [← Predicate.ofDirective kind value]
    | none => return [.text rest]

def parse (token : List α) : Except Fault (Filter α) := do
  if Text.isBlankText token then return empty
  let found ← directives (pieces token)
  let last ← remainder (Text.trim ((pieces token).map Piece.remnant))
  return ⟨found ++ last⟩

def parse? : Option Text → Except Fault Filter
  | none => return empty
  | some token => parse token

def bracket (kind : FilterKind) (value : List α) : List α :=
  Text.spell ('[' :: kind.name ++ [':']) ++ value ++ Text.spell [']']

/-- The token of a filter: the named conditions in brackets, and then the texts, with spaces
between them. -/
def token (f : Filter α) : List α :=
  let named := f.predicates.flatMap fun p =>
    match p with
    | .named kind value => bracket kind value
    | .text _ => []
  let space := Text.spell [' ']
  let texts := Text.join space (f.predicates.filterMap fun p =>
    match p with
    | .named _ _ => none
    | .text needle => some needle)
  if !named.isEmpty && !texts.isEmpty then named ++ space ++ texts
  else if !named.isEmpty then named
  else texts

end Agenda.Filter
