import Agenda.Text.Quoted

/-!
Why an operation fails. Every failure of the library is one of these causes, and each cause has
one wording.
-/

namespace Agenda

inductive Operand where
  | text
  | number
  | missing
  deriving DecidableEq, Repr

inductive PathTrouble where
  | missing
  | exists
  | notFolder
  | isFolder
  | busy
  | tooLong
  /-- The path holds the code point 0, which no path may. -/
  | nullByte
  /-- A trouble that does not come from where folders and files are. -/
  | other (number : Nat) (reason : Text)
  deriving DecidableEq, Repr

inductive Fault where
  /-- A date or time field outside its range. -/
  | yearOutside (year : Int)
  | monthOutside
  | dayOutside
  | hourOutside
  | minuteOutside
  | secondOutside
  /-- A field that does not fit a machine word, or a smaller one. -/
  | fieldTooWide
  | fieldTooLarge
  | fieldTooSmall
  /-- A number of days that no distance between dates has. -/
  | daysTooWide
  | daysOutside (days : Int)
  /-- A date before the first or after the last of the calendar. -/
  | dateOutside
  /-- A count of seconds that does not fit a machine word, or whose year does not. -/
  | secondsTooWide
  | secondsTooFar
  /-- A count of seconds that is no number. -/
  | secondsUndefined
  /-- An integer is asked for where there is no number. -/
  | infiniteInteger
  | undefinedInteger
  /-- A numeral of more digits than are read. -/
  | numeralTooLong (digits : Nat)
  | numeralEmpty
  /-- A position in front of the first code point of a text, or one that does not even fit a
  machine word. -/
  | positionOutside
  | positionTooWide
  | unknownKind (kind : Text)
  | unknownField (field : Option Text)
  | unknownAction (action : Option Text)
  | badParameter (parameter action : Text)
  | noItems
  | noValidItems
  | namelessPreset
  | namelessPath (path : Text)
  | onPath (trouble : PathTrouble) (path : Text) (target : Option Text)
  /-- A write that was not finished. -/
  | inWriting (trouble : PathTrouble)
  /-- A text with code points that are no characters, of which the first is given, and the run of
  them. -/
  | notEncodable (first start length : Nat)
  | homeUnknown
  | levelUnknown (level : Text)
  | levelNotNumber (level : Text)
  /-- Two sides of which one is missing have no order. -/
  | unordered (left right : Operand)
  | missingTag (index : Nat)
  deriving DecidableEq, Repr

namespace PathTrouble

/-- The number and the words by which the trouble is known. -/
def words : PathTrouble → Text
  | missing => "[Errno 2] No such file or directory".toList
  | .exists => "[Errno 17] File exists".toList
  | notFolder => "[Errno 20] Not a directory".toList
  | isFolder => "[Errno 21] Is a directory".toList
  | busy => "[Errno 16] Device or resource busy".toList
  | tooLong => "[Errno 36] File name too long".toList
  | nullByte => "embedded null byte".toList
  | other number reason => "[Errno ".toList ++ Text.ofNat number ++ "] ".toList ++ reason

end PathTrouble

def Operand.word : Operand → Text
  | text => "'str'".toList
  | number => "'int'".toList
  | missing => "'NoneType'".toList

namespace Fault

def message : Fault → Text
  | yearOutside year => "year ".toList ++ Text.ofInt year ++ " is out of range".toList
  | monthOutside => "month must be in 1..12".toList
  | dayOutside => "day is out of range for month".toList
  | hourOutside => "hour must be in 0..23".toList
  | minuteOutside => "minute must be in 0..59".toList
  | secondOutside => "second must be in 0..59".toList
  | fieldTooWide => "Python int too large to convert to C long".toList
  | fieldTooLarge => "signed integer is greater than maximum".toList
  | fieldTooSmall => "signed integer is less than minimum".toList
  | daysTooWide => "Python int too large to convert to C int".toList
  | daysOutside days =>
    "days=".toList ++ Text.ofInt days ++ "; must have magnitude <= 999999999".toList
  | dateOutside => "date value out of range".toList
  | secondsTooWide => "timestamp out of range for platform time_t".toList
  | secondsTooFar => "[Errno 75] Value too large for defined data type".toList
  | secondsUndefined => "Invalid value NaN (not a number)".toList
  | infiniteInteger => "cannot convert float infinity to integer".toList
  | undefinedInteger => "cannot convert float NaN to integer".toList
  | numeralTooLong digits =>
    "Exceeds the limit (".toList ++ Text.ofNat Text.maxDigits ++
      " digits) for integer string conversion: value has ".toList ++ Text.ofNat digits ++
      " digits; use sys.set_int_max_str_digits() to increase the limit".toList
  | numeralEmpty => "invalid literal for int() with base 10: ''".toList
  | positionOutside => "string index out of range".toList
  | positionTooWide => "cannot fit 'int' into an index-sized integer".toList
  | unknownKind kind => "Unknown filter type: ".toList ++ Text.quoted kind
  | unknownField field =>
    "Unknown sort field: ".toList ++ Text.quoted? field ++
      ". Use one of: name, due, creation.".toList
  | unknownAction action => "Unsupported filter action: ".toList ++ Text.quoted? action
  | badParameter parameter action =>
    "Missing or invalid '".toList ++ parameter ++ "' parameter for ".toList ++ action ++ ['.']
  | noItems => "Missing or invalid 'filters' array for filter_combined.".toList
  | noValidItems => "No valid filters found in the combined filter.".toList
  | namelessPreset => "preset name is required".toList
  | namelessPath path => "PosixPath(".toList ++ Text.quoted path ++ ") has an empty name".toList
  | onPath .nullByte _ _ => PathTrouble.words .nullByte
  | onPath trouble path target =>
    trouble.words ++ ": ".toList ++ Text.quoted path ++
      match target with
      | some target => " -> ".toList ++ Text.quoted target
      | none => []
  | inWriting trouble => trouble.words
  | notEncodable first start length =>
    let place :=
      if length = 1 then
        " '\\u".toList ++ Text.hex 4 first ++ "' in position ".toList ++ Text.ofNat start
      else
        "s in position ".toList ++ Text.ofNat start ++ '-' :: Text.ofNat (start + length - 1)
    "'utf-8' codec can't encode character".toList ++ place ++ ": surrogates not allowed".toList
  | homeUnknown => "Could not determine home directory.".toList
  | levelUnknown level => "Unknown level: ".toList ++ Text.quoted level
  | levelNotNumber level => "Level not an integer or a valid string: ".toList ++ level
  | unordered left right =>
    "'<' not supported between instances of ".toList ++ left.word ++ " and ".toList ++ right.word
  | missingTag index =>
    "sequence item ".toList ++ Text.ofNat index ++ ": expected str instance, NoneType found".toList

end Fault

end Agenda
