import Agenda.Calendar.Date
import Mathlib

/-!
Day numbers and civil days are the same thing counted in two ways. A year begins where the year
before it ends, so a day number lies in exactly one year, and the lengths of the months place it
within that.
-/

namespace Agenda.Calendar

/-- The number of days of a year. -/
def yearLength (year : Int) : Nat := if isLeap year then 366 else 365

/-- The day number of the first of January. -/
def yearStart (year : Int) : Int := daysBeforeYear year - daysBeforeEpoch

theorem isLeap_iff (year : Int) :
    isLeap year = true ↔ year % 4 = 0 ∧ (year % 100 ≠ 0 ∨ year % 400 = 0) := by
  simp [isLeap]

theorem yearStart_succ (year : Int) : yearStart (year + 1) = yearStart year + yearLength year := by
  have hleap := isLeap_iff year
  unfold yearStart daysBeforeYear yearLength
  by_cases h : isLeap year = true
  · have hdivides := hleap.mp h
    rw [if_pos h]
    omega
  · have hdivides := mt hleap.mpr h
    rw [if_neg h]
    omega

theorem yearStart_mono {a b : Int} (h : a ≤ b) : yearStart a ≤ yearStart b := by
  unfold yearStart daysBeforeYear
  omega

/-- A day from the start of a year on lies in no earlier year. -/
theorem le_of_yearStart_le {first year n : Int} (hstop : n < yearStart (year + 1))
    (h : yearStart first ≤ n) : first ≤ year := by
  by_contra hbefore
  have hmono := yearStart_mono (a := year + 1) (b := first) (by omega)
  omega

theorem lt_of_lt_yearStart {year next n : Int} (hstart : yearStart year ≤ n)
    (h : n < yearStart next) : year < next := by
  by_contra hafter
  have hmono := yearStart_mono (a := next) (b := year) (by omega)
  omega

/-- A day lies in only one year. -/
theorem year_unique {a b n : Int} (ha : yearStart a ≤ n) (ha' : n < yearStart (a + 1))
    (hb : yearStart b ≤ n) (hb' : n < yearStart (b + 1)) : a = b :=
  le_antisymm (le_of_yearStart_le hb' ha) (le_of_yearStart_le ha' hb)

section Months

theorem monthLengths_sum (year : Int) :
    (monthLengths year).foldr (· + ·) 0 = yearLength year := by
  unfold monthLengths yearLength
  cases isLeap year <;> rfl

theorem length_monthLengths (year : Int) : (monthLengths year).length = 12 := rfl

/-- The days of a list of months before one of them. -/
private def daysBefore (lengths : List Nat) (i : Nat) : Nat := (lengths.take i).foldr (· + ·) 0

private theorem monthAndDay_spec {lengths : List Nat} {n : Nat}
    (h : n < lengths.foldr (· + ·) 0) :
    ∃ i d, monthAndDay lengths n = (i + 1, d + 1) ∧ i < lengths.length ∧
      d < lengths.getD i 0 ∧ daysBefore lengths i + d = n := by
  induction lengths generalizing n with
  | nil => simp at h
  | cons length rest ih =>
      rw [monthAndDay]
      by_cases hlt : n < length
      · exact ⟨0, n, by rw [if_pos hlt], by simp, by simpa using hlt, by simp [daysBefore]⟩
      · rw [List.foldr_cons] at h
        obtain ⟨i, d, hread, hi, hd, hn⟩ := ih (n := n - length) (by omega)
        refine ⟨i + 1, d, ?_, by simpa using hi, by simpa using hd, ?_⟩
        · rw [if_neg hlt, hread]
        · simp only [daysBefore, List.take_succ_cons, List.foldr_cons] at hn ⊢
          omega

private theorem monthAndDay_daysBefore {lengths : List Nat} {i d : Nat}
    (hd : d < lengths.getD i 0) :
    monthAndDay lengths (daysBefore lengths i + d) = (i + 1, d + 1) := by
  induction lengths generalizing i with
  | nil => simp at hd
  | cons length rest ih =>
      rw [monthAndDay]
      cases i with
      | zero =>
          have hlt : d < length := by simpa using hd
          simp [daysBefore, hlt]
      | succ i =>
          have hrest := ih (i := i) (by simpa using hd)
          have hsplit : daysBefore (length :: rest) (i + 1) = length + daysBefore rest i := rfl
          rw [if_neg (by omega), hsplit, show length + daysBefore rest i + d - length =
            daysBefore rest i + d by omega, hrest]

/-- A month of a year ends by the end of the year. -/
theorem daysBeforeMonth_add_le (year : Int) {month : Nat} (hmonth : 1 ≤ month)
    (hmonth' : month ≤ 12) :
    daysBeforeMonth year month + daysInMonth year month ≤ yearLength year := by
  unfold daysBeforeMonth daysInMonth monthLengths yearLength
  cases isLeap year <;> interval_cases month <;> simp

/-- Even 31 days from the start of a month on do not lead out of the year. -/
theorem daysBeforeMonth_le (year : Int) {month : Nat} (hmonth : 1 ≤ month) (hmonth' : month ≤ 12) :
    daysBeforeMonth year month + 31 ≤ yearLength year := by
  unfold daysBeforeMonth monthLengths yearLength
  cases isLeap year <;> interval_cases month <;> simp

/-- A month has at least 28 days, so months come at least so far apart. -/
theorem daysBeforeMonth_add_le_of_lt (year : Int) {a b : Nat} (ha : 1 ≤ a) (hab : a < b)
    (hb : b ≤ 12) : daysBeforeMonth year a + 28 ≤ daysBeforeMonth year b := by
  induction b, hab using Nat.le_induction with
  | base =>
      have ha' : a ≤ 11 := by omega
      unfold daysBeforeMonth monthLengths
      cases isLeap year <;> interval_cases a <;> simp
  | succ b hab ih =>
      have hstep : daysBeforeMonth year b ≤ daysBeforeMonth year (b + 1) := by
        have hlow : 2 ≤ b := by omega
        have hhigh : b ≤ 11 := by omega
        unfold daysBeforeMonth monthLengths
        cases isLeap year <;> interval_cases b <;> simp
      have hrest := ih (by omega)
      omega

/-- No month is shorter than four weeks. -/
theorem le_daysInMonth (year : Int) {month : Nat} (hmonth : 1 ≤ month) (hmonth' : month ≤ 12) :
    28 ≤ daysInMonth year month := by
  unfold daysInMonth monthLengths
  cases isLeap year <;> interval_cases month <;> simp

theorem daysInMonth_le (year : Int) {month : Nat} (hmonth : 1 ≤ month) (hmonth' : month ≤ 12) :
    daysInMonth year month ≤ 31 := by
  unfold daysInMonth monthLengths
  cases isLeap year <;> interval_cases month <;> simp

end Months

/-- A civil day that there is. -/
structure Civil.IsDay (c : Civil) : Prop where
  one_le_month : 1 ≤ c.month
  month_le : c.month ≤ 12
  one_le_day : 1 ≤ c.day
  day_le : c.day ≤ daysInMonth c.year c.month

/-- The number of a civil day. -/
def Civil.dayNumber (c : Civil) : Int := dayNumberOf c.year c.month c.day

theorem dayNumberOf_eq (year : Int) (month day : Nat) :
    dayNumberOf year month day = yearStart year + daysBeforeMonth year month + day - 1 := by
  unfold dayNumberOf yearStart
  omega

/-- The number of a civil day lies in its year. -/
theorem Civil.IsDay.inYear {c : Civil} (h : c.IsDay) :
    yearStart c.year ≤ c.dayNumber ∧ c.dayNumber < yearStart (c.year + 1) := by
  obtain ⟨hmonth, hmonth', hday, hday'⟩ := h
  have hend := daysBeforeMonth_add_le c.year hmonth hmonth'
  rw [yearStart_succ, Civil.dayNumber, dayNumberOf_eq]
  omega

/-- A year of four centuries, centuries, fours of years and single years starts after the days of
all these. -/
private theorem daysBeforeYear_parts (cycle : Int) {century four single : Int}
    (hcentury : 0 ≤ century ∧ century ≤ 3) (hfour : 0 ≤ four ∧ four ≤ 24)
    (hsingle : 0 ≤ single ∧ single ≤ 3) :
    daysBeforeYear (400 * cycle + 100 * century + 4 * four + single + 1) =
      146097 * cycle + 36524 * century + 1461 * four + 365 * single := by
  unfold daysBeforeYear
  have hyears : 400 * cycle + 100 * century + 4 * four + single + 1 - 1 =
      400 * cycle + 100 * century + 4 * four + single := by omega
  have hfours : (400 * cycle + 100 * century + 4 * four + single) / 4 =
      100 * cycle + 25 * century + four := by omega
  have hcenturies : (400 * cycle + 100 * century + 4 * four + single) / 100 =
      4 * cycle + century := by omega
  have hcycles : (400 * cycle + 100 * century + 4 * four + single) / 400 = cycle := by omega
  rw [hyears, hfours, hcenturies, hcycles]
  omega

/-- The day of the year that is computed is one of the year's: a day 365 occurs only in the last of
four years that are not the last of a century, or are the last of four of them. -/
private theorem dayOfYear_lt (cycle century : Int) {four single day : Int}
    (hfour : 0 ≤ four ∧ four ≤ 24) (hsingle : 0 ≤ single ∧ single ≤ 3) (hday : day ≤ 365)
    (hlast : day = 365 → single = 3 ∧ (four = 24 → century = 3)) :
    day < yearLength (400 * cycle + 100 * century + 4 * four + single + 1) := by
  have hleap := isLeap_iff (400 * cycle + 100 * century + 4 * four + single + 1)
  unfold yearLength
  by_cases h : isLeap (400 * cycle + 100 * century + 4 * four + single + 1) = true
  · rw [if_pos h]
    omega
  · have hcommon := mt hleap.mpr h
    rw [if_neg h]
    by_contra hbig
    have heq : day = 365 := by omega
    obtain ⟨rfl, hcycle⟩ := hlast heq
    refine hcommon ⟨by omega, ?_⟩
    by_cases hlastFour : four = 24
    · right
      have := hcycle hlastFour
      omega
    · left
      omega

/-- The year that is computed for a day number, and the day of the year. -/
private theorem ofDayNumber_parts (n : Int) :
    ∃ (year : Int) (dayOfYear : Nat), n = yearStart year + dayOfYear ∧ dayOfYear < yearLength year ∧
      Civil.ofDayNumber n = ⟨year, (monthAndDay (monthLengths year) dayOfYear).1,
        (monthAndDay (monthLengths year) dayOfYear).2⟩ := by
  obtain ⟨days, hdays⟩ : ∃ days, days = n + daysBeforeEpoch := ⟨_, rfl⟩
  obtain ⟨cycle, hcycle⟩ : ∃ cycle, cycle = days / 146097 := ⟨_, rfl⟩
  obtain ⟨century, hcentury⟩ : ∃ century, century = min (days % 146097 / 36524) 3 := ⟨_, rfl⟩
  obtain ⟨rest, hrest⟩ : ∃ rest, rest = days % 146097 - 36524 * century := ⟨_, rfl⟩
  obtain ⟨four, hfour⟩ : ∃ four, four = rest / 1461 := ⟨_, rfl⟩
  obtain ⟨single, hsingle⟩ : ∃ single, single = min (rest % 1461 / 365) 3 := ⟨_, rfl⟩
  obtain ⟨day, hday⟩ : ∃ day, day = rest % 1461 - 365 * single := ⟨_, rfl⟩
  have hcenturyBounds : 0 ≤ century ∧ century ≤ 3 := by omega
  have hrestBounds : 0 ≤ rest ∧ rest ≤ 36524 ∧ (rest = 36524 → century = 3) := by omega
  have hfourBounds : 0 ≤ four ∧ four ≤ 24 := by omega
  have hsingleBounds : 0 ≤ single ∧ single ≤ 3 := by omega
  have hdayBounds : 0 ≤ day ∧ day ≤ 365 := by omega
  have hlast : day = 365 → single = 3 ∧ (four = 24 → century = 3) := by omega
  have hstart := daysBeforeYear_parts cycle hcenturyBounds hfourBounds hsingleBounds
  have hlength := dayOfYear_lt cycle century hfourBounds hsingleBounds hdayBounds.2 hlast
  refine ⟨400 * cycle + 100 * century + 4 * four + single + 1, day.toNat, ?_, by omega, ?_⟩
  · rw [yearStart, hstart]
    omega
  · subst hday hsingle hfour hrest hcentury hcycle hdays
    rfl

/-- A day number belongs to a civil day. -/
theorem isDay_ofDayNumber (n : Int) : (Civil.ofDayNumber n).IsDay := by
  obtain ⟨year, dayOfYear, _, hlt, hcivil⟩ := ofDayNumber_parts n
  rw [← monthLengths_sum] at hlt
  obtain ⟨i, d, hread, hi, hd, _⟩ := monthAndDay_spec hlt
  rw [length_monthLengths] at hi
  rw [hcivil, hread]
  exact ⟨by simp, by simpa using hi, by simp, by simpa [daysInMonth] using hd⟩

@[simp] theorem dayNumber_ofDayNumber (n : Int) : (Civil.ofDayNumber n).dayNumber = n := by
  obtain ⟨year, dayOfYear, hn, hlt, hcivil⟩ := ofDayNumber_parts n
  rw [← monthLengths_sum] at hlt
  obtain ⟨i, d, hread, _, _, hsum⟩ := monthAndDay_spec hlt
  rw [hcivil, hread, Civil.dayNumber, dayNumberOf_eq, hn, ← hsum]
  simp only [daysBeforeMonth, daysBefore, Nat.add_sub_cancel]
  omega

/-- The civil day of the number of a civil day is that day. -/
theorem ofDayNumber_dayNumber {c : Civil} (h : c.IsDay) : Civil.ofDayNumber c.dayNumber = c := by
  obtain ⟨year, dayOfYear, hn, hlt, hcivil⟩ := ofDayNumber_parts c.dayNumber
  have hyear : year = c.year := by
    refine year_unique (n := c.dayNumber) (by omega) ?_ h.inYear.1 h.inYear.2
    rw [yearStart_succ]
    omega
  subst hyear
  obtain ⟨hmonth, hmonth', hday, hday'⟩ := h
  have hplace : dayOfYear = daysBefore (monthLengths c.year) (c.month - 1) + (c.day - 1) := by
    rw [Civil.dayNumber, dayNumberOf_eq] at hn
    simp only [daysBeforeMonth] at hn
    unfold daysBefore
    omega
  have hinMonth : c.day - 1 < (monthLengths c.year).getD (c.month - 1) 0 := by
    rw [daysInMonth, if_neg (by omega)] at hday'
    omega
  have hread := monthAndDay_daysBefore hinMonth
  rw [← hplace] at hread
  have hmonthBack : c.month - 1 + 1 = c.month := by omega
  have hdayBack : c.day - 1 + 1 = c.day := by omega
  rw [hcivil, hread, hmonthBack, hdayBack]

/-- The year of a day number is the one that the number lies in. -/
theorem year_ofDayNumber_iff (n year : Int) :
    (Civil.ofDayNumber n).year = year ↔ yearStart year ≤ n ∧ n < yearStart (year + 1) := by
  have hin := (isDay_ofDayNumber n).inYear
  rw [dayNumber_ofDayNumber] at hin
  constructor
  · rintro rfl
    exact hin
  · rintro ⟨hstart, hstop⟩
    exact year_unique hin.1 hin.2 hstart hstop

end Agenda.Calendar
