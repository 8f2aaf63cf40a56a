import Agenda.Calendar.Date

/-!
Times of day to the second, on the 24-hour clock.
-/

namespace Agenda.Calendar

/-- A time of day. There is no second 60. -/
structure TimeOfDay where
  hour : Nat
  minute : Nat
  second : Nat
  inDay : hour < 24 ∧ minute < 60 ∧ second < 60
  deriving DecidableEq, Repr

/-- Fails unless a field fits the word that it is held in. -/
def checkField (n : Int) : Except Fault Unit :=
  if n < -9223372036854775808 ∨ 9223372036854775807 < n then .error .fieldTooWide
  else if 2147483647 < n then .error .fieldTooLarge
  else if n < -2147483648 then .error .fieldTooSmall
  else .ok ()

namespace TimeOfDay

/-- The time of day of three integers. Of several fields outside their ranges the first is
blamed. -/
def ofFields (hour minute second : Int) : Except Fault TimeOfDay :=
  if hour < 0 ∨ 23 < hour then .error .hourOutside
  else if minute < 0 ∨ 59 < minute then .error .minuteOutside
  else if h : hour.toNat < 24 ∧ minute.toNat < 60 ∧ second.toNat < 60 then
    if second < 0 then .error .secondOutside
    else .ok ⟨hour.toNat, minute.toNat, second.toNat, h⟩
  else .error .secondOutside

def seconds (time : TimeOfDay) : Nat := 3600 * time.hour + 60 * time.minute + time.second

/-- The time of day a number of seconds after midnight, whole days left out. -/
def ofSeconds (n : Nat) : TimeOfDay :=
  ⟨n / 3600 % 24, n / 60 % 60, n % 60, by omega⟩

def midnight : TimeOfDay := ⟨0, 0, 0, by decide⟩

def lastSecond : TimeOfDay := ⟨23, 59, 59, by decide⟩

/-- The hour of a day that is named without a time. -/
def morning : TimeOfDay := ⟨9, 0, 0, by decide⟩

def text (time : TimeOfDay) : Text :=
  Text.padded 2 time.hour ++ ':' :: Text.padded 2 time.minute ++ ':' :: Text.padded 2 time.second

end TimeOfDay

end Agenda.Calendar
