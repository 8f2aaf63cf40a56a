import Agenda.Json.Value
import Agenda.Text.Numeral

/-!
Reading JSON. Besides the standard notation the three words for numbers that are not finite are
accepted. Integers of too many digits are refused, and so is nesting beyond the depth that the
caller allows.
-/

namespace Agenda.Json

def isSpace (c : Char) : Bool := c == ' ' || c == '\t' || c == '\n' || c == '\r'

def skipSpace (s : Text) : Text := s.dropWhile isSpace

def hexDigit? (c : Char) : Option Nat :=
  if '0' ≤ c ∧ c ≤ '9' then some (c.toNat - 48)
  else if 'a' ≤ c ∧ c ≤ 'f' then some (c.toNat - 87)
  else if 'A' ≤ c ∧ c ≤ 'F' then some (c.toNat - 55)
  else none

/-- The number that four hexadecimal digits write. -/
def hexNumber? (a b c d : Char) : Option Nat := do
  return 4096 * (← hexDigit? a) + 256 * (← hexDigit? b) + 16 * (← hexDigit? c) + (← hexDigit? d)

/-- The code point of an escape by letter. -/
def escaped? (c : Char) : Option Char :=
  if c = '"' ∨ c = '\\' ∨ c = '/' then some c
  else if c = 'b' then some '\x08'
  else if c = 'f' then some '\x0c'
  else if c = 'n' then some '\n'
  else if c = 'r' then some '\r'
  else if c = 't' then some '\t'
  else none

def isHighSurrogate (n : Nat) : Bool := decide (0xd800 ≤ n) && decide (n < 0xdc00)

def isLowSurrogate (n : Nat) : Bool := decide (0xdc00 ≤ n) && decide (n < 0xe000)

/-- The code point of a number. Half a surrogate pair that stands alone is one. -/
def codePoint (n : Nat) : Point := if h : IsHalf n then .half n h else .char (Char.ofNat n)

/-- The rest of a string up to the closing mark, and what follows it. -/
def stringRest : Text → Option (List Point × Text)
  | [] => none
  | '"' :: s => some ([], s)
  | '\\' :: 'u' :: a :: b :: c :: d :: s => do
    let n ← hexNumber? a b c d
    match s with
    | '\\' :: 'u' :: e :: f :: g :: h :: s' =>
      let low := (hexNumber? e f g h).getD 0
      if isHighSurrogate n && isLowSurrogate low then
        let (t, rest) ← stringRest s'
        return (.char (Char.ofNat (0x10000 + 0x400 * (n - 0xd800) + (low - 0xdc00))) :: t, rest)
      else
        let (t, rest) ← stringRest ('\\' :: 'u' :: e :: f :: g :: h :: s')
        return (codePoint n :: t, rest)
    | s =>
      let (t, rest) ← stringRest s
      return (codePoint n :: t, rest)
  | '\\' :: c :: s => do
    let c ← escaped? c
    let (t, rest) ← stringRest s
    return (.char c :: t, rest)
  | c :: s =>
    if c.toNat < 32 ∨ c = '\\' then none
    else do
      let (t, rest) ← stringRest s
      return (.char c :: t, rest)

def digitsAt (s : Text) : Text × Text :=
  (s.takeWhile Text.isPlainDigit, s.dropWhile Text.isPlainDigit)

/-- A point and digits, if they come next. -/
def fractionAt (s : Text) : Text × Text :=
  match s with
  | '.' :: more =>
    let (digits, rest) := digitsAt more
    if digits = [] then ([], s) else ('.' :: digits, rest)
  | _ => ([], s)

/-- An exponent, if one comes next. -/
def exponentAt (s : Text) : Text × Text :=
  match s with
  | e :: more =>
    if e = 'e' ∨ e = 'E' then
      let (sign, more) := match more with
        | '+' :: more => (['+'], more)
        | '-' :: more => (['-'], more)
        | more => ([], more)
      let (digits, rest) := digitsAt more
      if digits = [] then ([], s) else (e :: sign ++ digits, rest)
    else ([], s)
  | [] => ([], s)

/-- A number as it is written. A leading zero stands alone, and an integer has no more digits
than are read. -/
def numberAt? (s : Text) : Option (Text × Text) :=
  let (sign, more) := match s with
    | '-' :: more => (['-'], more)
    | more => ([], more)
  let (whole, more) := match more with
    | '0' :: more => (['0'], more)
    | more => digitsAt more
  let (fraction, more) := fractionAt more
  let (exponent, rest) := exponentAt more
  if whole = [] then none
  else if fraction = [] ∧ exponent = [] ∧ Text.maxDigits < whole.length then none
  else some (sign ++ whole ++ fraction ++ exponent, rest)

section

variable {α : Type}

/-- A word at the start of a text, read as a value. -/
def wordAt? (word : Text) (value : Value α) (s : Text) : Option (Value α × Text) :=
  if word.isPrefixOf s then some (value, s.drop word.length) else none

def words : List (Text × Value α) :=
  [("null".toList, .null), ("true".toList, .bool true), ("false".toList, .bool false),
   ("NaN".toList, .number "NaN".toList), ("Infinity".toList, .number "Infinity".toList),
   ("-Infinity".toList, .number "-Infinity".toList)]

def atomAt? (s : Text) : Option (Value α × Text) :=
  match words.findSome? fun (word, value) => wordAt? word value s with
  | some found => some found
  | none => (numberAt? s).map fun (literal, rest) => (.number literal, rest)

/-- The items of an array from the first on, up to the closing bracket. -/
def itemsAt? (item : Text → Option (Value α × Text)) :
    Nat → Text → Option (List (Value α) × Text)
  | 0, _ => none
  | fuel + 1, s => do
    let (value, rest) ← item s
    match skipSpace rest with
    | ',' :: rest =>
      let (more, rest) ← itemsAt? item fuel (skipSpace rest)
      return (value :: more, rest)
    | ']' :: rest => return ([value], rest)
    | _ => none

variable [Alphabet α]

/-- A string at the start of a text, behind its opening mark. -/
def stringAt? (s : Text) : Option (List α × Text) :=
  (stringRest s).map fun (t, rest) => (t.map Alphabet.ofPoint, rest)

/-- The fields of an object from the first on, up to the closing brace. -/
def fieldsAt? (item : Text → Option (Value α × Text)) :
    Nat → Text → Option (List (List α × Value α) × Text)
  | 0, _ => none
  | fuel + 1, s => do
    let '"' :: s := s | none
    let (name, rest) ← stringAt? s
    let ':' :: rest := skipSpace rest | none
    let (value, rest) ← item (skipSpace rest)
    match skipSpace rest with
    | ',' :: rest =>
      let (more, rest) ← fieldsAt? item fuel (skipSpace rest)
      return ((name, value) :: more, rest)
    | '\x7d' :: rest => return ([(name, value)], rest)
    | _ => none

variable [DecidableEq α]

/-- The object of the given fields. A later field of the same name takes the place of an earlier
one. -/
def objectOf (fields : List (List α × Value α)) : Value α :=
  .object (fields.foldl (fun known (name, value) => Text.putEntry name value known) [])

/-- A value at the start of a text, and the rest: an array or object has no more items than `size`,
and there are no more levels of nesting than given. -/
def valueAt? (size : Nat) : Nat → Text → Option (Value α × Text)
  | _, [] => none
  | _, '"' :: s => (stringAt? s).map fun (t, rest) => (.string t, rest)
  | depth + 1, '[' :: s =>
    match skipSpace s with
    | ']' :: rest => some (.array [], rest)
    | s => (itemsAt? (valueAt? size depth) size s).map fun (items, rest) => (.array items, rest)
  | depth + 1, '\x7b' :: s =>
    match skipSpace s with
    | '\x7d' :: rest => some (.object [], rest)
    | s => (fieldsAt? (valueAt? size depth) size s).map fun (fields, rest) =>
        (objectOf fields, rest)
  | _, s => atomAt? s

/-- The value that a text writes, with blanks around it. So many levels may be nested in the
outermost one as are given, and nothing has more items than the text has code points. -/
def read? (nesting : Nat) (s : Text) : Option (Value α) :=
  match valueAt? s.length (nesting + 1) (skipSpace s) with
  | some (value, rest) => if skipSpace rest = [] then some value else none
  | none => none

end

end Agenda.Json
