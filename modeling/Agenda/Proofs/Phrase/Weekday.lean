import Agenda.Proofs.Phrase.Grammar
import Agenda.Proofs.Phrase.Morning
import Agenda.Proofs.Text.Case
import Mathlib

/-!
Weekdays. A text whose first word starts like a weekday is one whatever follows these letters, and it
means the same behind "next": the morning of the first such day after today.
-/

namespace Agenda.Phrase

open Calendar Clock Scanner Text

/-- The first word of the text starts with the first letters of a name, in any case of the letters
`A` to `Z`. -/
def StartsLike (name text : Text) : Prop :=
  name.take minNameLength <+: ((trimStart text).takeWhile isLetter).map Char.toLower

instance (name text : Text) : Decidable (StartsLike name text) :=
  inferInstanceAs <| Decidable <|
    name.take minNameLength <+: ((trimStart text).takeWhile isLetter).map Char.toLower

/-- The names of weekdays start with three small letters. -/
private theorem weekdayNames_small :
    ∀ name ∈ weekdayNames, (name.take minNameLength).length = minNameLength ∧
      AllPlain (name.take minNameLength) ∧
      lower (name.take minNameLength) = name.take minNameLength := by
  decide

private theorem monthNames_plain : ∀ name ∈ monthNames, AllPlain (name.take minNameLength) := by
  decide

/-- Weekdays are told from each other and from the months by these letters. -/
private theorem weekdayNames_apart :
    (weekdayNames.Pairwise fun name other =>
      ¬ name.take minNameLength <+: other.take minNameLength ∧
        ¬ other.take minNameLength <+: name.take minNameLength) ∧
    ∀ name ∈ weekdayNames, ∀ month ∈ monthNames,
      ¬ name.take minNameLength <+: month.take minNameLength ∧
        ¬ month.take minNameLength <+: name.take minNameLength := by
  decide

section Reading

variable {day : Nat} {name text : Text} (hname : weekdayNames[day]? = some name)
  (hstarts : StartsLike name text)
include hname hstarts

/-- The case of the other letters of the word has no part in how its lowercase starts. -/
private theorem prefix_lower_of_startsLike :
    name.take minNameLength <+: lower ((trimStart text).takeWhile isLetter) := by
  obtain ⟨_, hplain, hsmall⟩ := weekdayNames_small name (List.mem_of_getElem? hname)
  rw [← lower_map_toLower]
  exact prefix_lower_of_prefix hplain hsmall hstarts

theorem weekday_of_startsLike : ∃ rest, weekday (trimStart text) = .accept day rest := by
  have hbegins := prefix_lower_of_startsLike hname hstarts
  obtain ⟨hlt, rfl⟩ := List.getElem?_eq_some_iff.mp hname
  obtain ⟨hlength, _⟩ := weekdayNames_small _ (List.getElem_mem hlt)
  refine ⟨_, nameIn_of_begins hlt hlength ?_ hbegins⟩
  intro j hj
  exact List.pairwise_iff_getElem.mp weekdayNames_apart.1 j day (by omega) hlt hj

theorem monthDay_of_startsLike : monthDay text = .reject := by
  have hmem := List.mem_of_getElem? hname
  have hword : name.take minNameLength <+: (trimStart text).map foldChar :=
    (prefix_fold_of_prefix_lower (weekdayNames_small name hmem).2.1
      (prefix_lower_of_startsLike hname hstarts)).trans
      ((List.takeWhile_prefix isLetter).map foldChar)
  have hmonth := nameIn_of_apart monthNames_plain hword (weekdayNames_apart.2 name hmem)
  unfold monthDay
  rw [bind_of_accept (blanks_text text)]
  exact bind_of_reject (map_of_reject hmonth)

variable (z : Zone) (now : LocalTime)

theorem readAbsolute_of_startsLike :
    readAbsolute z now text = some <$> morningAfter z now (now.date.daysUntil day) := by
  obtain ⟨rest, hread⟩ := weekday_of_startsLike hname hstarts
  unfold readAbsolute
  rw [monthDay_of_startsLike hname hstarts]
  dsimp only
  rw [hread]

/-- Behind "next" a weekday is read as without it. -/
theorem readRelative_of_startsLike :
    readRelative z now ("next ".toList ++ text) =
      some <$> morningAfter z now (now.date.daysUntil day) := by
  obtain ⟨rest, hread⟩ := weekday_of_startsLike hname hstarts
  have hskip : trimStart (' ' :: text) = trimStart text := rfl
  have hnext : relative now.date ("next ".toList ++ text) =
      .accept (.morning (now.date.daysUntil day)) rest := by
    rw [relative_next, nextWeekday, bind_of_accept (blanks_text _), hskip, bind_of_accept hread]
    rfl
  unfold readRelative
  rw [hnext]

end Reading

/-- Weekdays mean the next such day, with or without "next". From any local day of the years 2 to
9998, a text whose first word starts like a weekday means nine in the morning of the one day of the
coming seven that is such a weekday. -/
theorem resolve_weekday {clock : WallClock} {anchor : Anchor} {now : LocalTime}
    (hnow : clock.resolve anchor = .ok now) (hyear : 2 ≤ now.date.year ∧ now.date.year ≤ 9998)
    {day : Nat} {name text : Text} (hname : weekdayNames[day]? = some name)
    (hstarts : StartsLike name text) :
    ∃ (date : Date) (second : Int),
      (now.date.dayNumber < date.dayNumber ∧ date.dayNumber ≤ now.date.dayNumber + 7 ∧
        date.weekday = day) ∧
      (∀ other : Date, now.date.dayNumber < other.dayNumber ∧
        other.dayNumber ≤ now.date.dayNumber + 7 ∧ other.weekday = day → other = date) ∧
      clock.zone.toTimestamp (.on date .morning) = .ok second ∧
      resolve clock anchor (some text) = .ok (some second) ∧
      resolve clock anchor (some ("next ".toList ++ text)) = .ok (some second) := by
  have hweekday : day < 7 := (List.getElem?_eq_some_iff.mp hname).1
  have hnear := now.date.daysUntil_bounds day
  have hnext := now.date.isNext_daysUntil day hweekday
  obtain ⟨date, hnumber, hlater, hmorning⟩ := exists_date_of_morningAfter hyear hnear
  obtain ⟨second, hsecond, _⟩ := Zone.exists_morning clock.zone hlater
  have habsolute := readAbsolute_of_startsLike hname hstarts clock.zone now
  have hrelative := readRelative_of_startsLike hname hstarts clock.zone now
  rw [hmorning, hsecond] at habsolute hrelative
  refine ⟨date, second, ⟨by omega, by omega, ?_⟩, ?_, hsecond, ?_, ?_⟩
  · rw [Date.weekday, hnumber]
    exact hnext.weekdayOf_eq
  · rintro other ⟨hafter, hwithin, hsame⟩
    apply Date.eq_of_dayNumber_eq
    have hleast := hnext.le_of_lt other.dayNumber hafter hsame
    unfold Date.weekday weekdayOf at hsame
    have hfound := hnext.weekdayOf_eq
    unfold weekdayOf at hfound
    omega
  · rw [resolve_eq_firstRule hnow, firstRule_eq_some_iff]
    exact ⟨readAbsolute, by simp [rules], habsolute⟩
  · rw [resolve_eq_firstRule hnow, firstRule_eq_some_iff]
    exact ⟨readRelative, by simp [rules], hrelative⟩

/-- On a Saturday, a word that starts like Saturday means the morning of the next one, a week later.
The clock is put back in between. -/
theorem resolve_weekday_saturday :
    let clock : WallClock := ⟨.eastAmerica, .ofInt 0⟩
    let noon : LocalTime := .on ⟨2026, 10, 31, by decide⟩ ⟨12, 0, 0, by decide⟩
    resolve clock (.localTime noon) (some "SATsuma, 2pm".toList) = .ok (some 1794060000) ∧
      resolve clock (.localTime noon) (some "next SATsuma, 2pm".toList) =
        .ok (some 1794060000) := by
  intro clock noon
  have hvalue : resolve clock (.localTime noon) (some "SATsuma, 2pm".toList) =
      .ok (some 1794060000) := by decide +kernel
  have hname : weekdayNames[5]? = some "saturday".toList := rfl
  have hstarts : StartsLike "saturday".toList "SATsuma, 2pm".toList := by decide +kernel
  have hnow : clock.resolve (.localTime noon) = .ok noon := rfl
  obtain ⟨date, second, _, _, _, hplain, hnext⟩ :=
    resolve_weekday hnow (by decide) hname hstarts
  cases hvalue.symm.trans hplain
  exact ⟨hvalue, hnext⟩

end Agenda.Phrase
