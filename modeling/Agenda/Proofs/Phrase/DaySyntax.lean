import Agenda.Proofs.Calendar.Dates
import Agenda.Proofs.Phrase.Alike
import Agenda.Proofs.Phrase.Token
import Mathlib

/-!
The grammars of days of a month and of days and times counted from now. Names are compared with the
lowercase of the word in front, but passed over in the word itself, so that a dotted capital I
stands for the `i` of a name where nothing of the name behind it is needed. Apart from that the
scanners recognize the grammars that spell names in any case of `A` to `Z`.
-/

namespace Agenda.Phrase

open Calendar Scanner Text

/-- A run of letters writes a name if it is the beginning of it, of three letters at least, in any
case. -/
def Shortens (name run : Text) : Prop :=
  minNameLength ≤ run.length ∧ run.map Char.toLower <+: name

/-- A run of letters writes a name but for a dotted capital I that ends it in place of an `i`. -/
def ShortensDotted (name run : Text) : Prop :=
  minNameLength ≤ run.length ∧
    ∃ front, run = front ++ [dottedI] ∧ front.map Char.toLower ++ ['i'] <+: name

/-- A run of letters starts with the first letters of a name, in any case, and so much of it is read
as the name goes along with it. -/
def StartsName (name run : Text) (length : Nat) : Prop :=
  name.take minNameLength <+: run.map Char.toLower ∧
    length = commonLength (run.map Char.toLower) name

/-- A run of letters starts with the first letters of a name but for a dotted capital I in place of
an `i` that ends them. -/
def StartsNameDotted (name run : Text) (length : Nat) : Prop :=
  StartsDotted (name.take minNameLength) run ∧ length = minNameLength

/-- What follows the name of a month: a point, a comma and the number of a day. -/
inductive EndsMonthDay : Grammar Nat
  | intro {s behindPoint atComma behindComma atDay rest : Text} {day : Nat} :
      MayHave '.' s behindPoint → Skips behindPoint atComma →
      MayHave ',' atComma behindComma → Skips behindComma atDay →
      Digits atDay day rest → 1 ≤ day → day ≤ 31 →
      EndsMonthDay s day rest

/-- A month and a day of it. The name of the month is a whole run of letters. -/
inductive WritesMonthDay (writesName : Text → Text → Prop) : Grammar (Nat × Nat)
  | intro {s atName run behindName name rest : Text} {i day : Nat} :
      Skips s atName → IsRun isLetter atName run behindName →
      monthNames[i]? = some name → writesName name run →
      EndsMonthDay behindName day rest →
      WritesMonthDay writesName s (i + 1, day) rest

/-- The word "next" and the beginning of the name of a weekday, for the days until the next one. -/
inductive WritesNext (startsName : Text → Text → Nat → Prop) (today : Date) : Grammar Offset
  | intro {s atWord behindWord atName run behindRun name : Text} {i length : Nat} {days : Int} :
      Skips s atWord → IsKeyword "next".toList atWord behindWord → Skips behindWord atName →
      IsRun isLetter atName run behindRun → weekdayNames[i]? = some name →
      startsName name run length → IsNext i today.dayNumber (today.dayNumber + days) →
      WritesNext startsName today s (.morning days) (atName.drop length)

/-- A day or a time counted from now. -/
inductive WritesOffset (startsName : Text → Text → Nat → Prop) (today : Date) : Grammar Offset
  | tomorrow {s atWord rest : Text} :
      Skips s atWord → IsKeyword "tomorrow".toList atWord rest →
      WritesOffset startsName today s (.morning 1) rest
  | later {s atWord behindWord atAmount behindAmount atUnit run rest : Text} {amount : Nat}
      {unit : Span} :
      Skips s atWord → IsKeyword "in".toList atWord behindWord → Skips behindWord atAmount →
      Digits atAmount amount behindAmount → Skips behindAmount atUnit →
      IsRun isLetter atUnit run rest → Span.ofWord? (lower run) = some unit →
      WritesOffset startsName today s (.later amount unit) rest
  | next {s rest : Text} {offset : Offset} :
      WritesNext startsName today s offset rest → WritesOffset startsName today s offset rest

/-- Names that a scanner of names can tell from each other. -/
structure AreNames (names : List Text) : Prop where
  small : ∀ name ∈ names, IsSmall name
  long : ∀ name ∈ names, minNameLength ≤ name.length
  apart : names.Pairwise fun name other =>
    ¬ name.take minNameLength <+: other.take minNameLength ∧
      ¬ other.take minNameLength <+: name.take minNameLength

theorem areNames_months : AreNames monthNames := ⟨by decide, by decide, by decide⟩

theorem areNames_weekdays : AreNames weekdayNames := ⟨by decide, by decide, by decide⟩

/-- A word is in lowercase the whole beginning of a name that it has in common with it if it writes
the name. -/
theorem shortens_iff {name run : Text} (hsmall : IsSmall name)
    (hlong : minNameLength ≤ name.length) :
    name.take minNameLength <+: lower run ∧ commonLength (lower run) name = run.length ↔
      Shortens name run ∨ ShortensDotted name run := by
  have hwhole : commonLength (lower run) name = run.length ↔
      run.length ≤ name.length ∧ name.take run.length <+: lower run := by
    rw [← le_commonLength_iff]
    exact ⟨Eq.ge, fun h => le_antisymm (commonLength_le hsmall.2.1) h⟩
  have hstart : run.length ≤ name.length ∧ name.take run.length <+: lower run →
      (name.take minNameLength <+: lower run ↔ minNameLength ≤ run.length) := by
    intro h
    rw [← hwhole.mpr h, le_commonLength_iff, and_iff_right hlong]
  have hplain : run.length ≤ name.length ∧ name.take run.length <+: run.map Char.toLower ↔
      run.map Char.toLower <+: name := by
    constructor
    · rintro ⟨hle, hbegin⟩
      rw [← hbegin.eq_of_length (by simpa using hle)]
      exact List.take_prefix _ _
    · intro hbegin
      refine ⟨by simpa using hbegin.length_le, ?_⟩
      rw [← List.length_map (f := Char.toLower), ← List.prefix_iff_eq_take.mp hbegin]
  have hdotted : run.length ≤ name.length ∧ StartsDotted (name.take run.length) run ↔
      ∃ front, run = front ++ [dottedI] ∧ front.map Char.toLower ++ ['i'] <+: name := by
    constructor
    · rintro ⟨hle, front, rest, hrun, hword⟩
      have hlength := congrArg List.length hword
      have hrest : rest = [] := by
        rw [← List.length_eq_zero_iff]
        simp [hrun] at hlength hle
        omega
      exact ⟨front, hrest ▸ hrun, hword ▸ List.take_prefix _ _⟩
    · rintro ⟨front, rfl, hbegin⟩
      have hlength : (front ++ [dottedI]).length = (front.map Char.toLower ++ ['i']).length := by
        simp
      rw [hlength]
      exact ⟨hbegin.length_le, front, [], rfl, List.prefix_iff_eq_take.mp hbegin⟩
  rw [hwhole, and_congr_left hstart, prefix_lower_iff (hsmall.take _), and_or_left, hplain, hdotted,
    and_or_left]
  rfl

/-- A word has as much in common with a name in lowercase as when its capitals are made small, if it
starts with the first letters of the name, and no more than these if a dotted capital I ends
them. -/
theorem startsName_iff {name run : Text} {length : Nat} (hsmall : IsSmall name)
    (hlong : minNameLength ≤ name.length) (hend : 'i' ∉ name.drop minNameLength) :
    name.take minNameLength <+: lower run ∧ length = commonLength (lower run) name ↔
      StartsName name run length ∨ StartsNameDotted name run length := by
  rw [prefix_lower_iff (hsmall.take _), or_and_right]
  refine or_congr (and_congr_right fun hplain => ?_) (and_congr_right fun hdotted => ?_)
  · have hcommon : commonLength (lower run) name = commonLength (run.map Char.toLower) name := by
      refine eq_of_forall_le_iff fun n => ?_
      rw [le_commonLength_iff, le_commonLength_iff]
      refine and_congr_right fun hn => (prefix_lower_iff (hsmall.take n)).trans (or_iff_left ?_)
      intro hdotted
      have hshort := List.take_prefix_take_left (l := name) (hdotted.le_of_take hend hn)
      exact hdotted.not_prefix (hshort.trans hplain)
    rw [hcommon]
  · have hcommon : commonLength (lower run) name = minNameLength := by
      refine le_antisymm ?_ ?_
      · by_contra hlt
        obtain ⟨hn, hmore⟩ := le_commonLength_iff.mp (Nat.lt_of_not_le hlt)
        rcases (prefix_lower_iff (hsmall.take _)).mp hmore with hplain | hlater
        · have hshort := List.take_prefix_take_left (l := name) (Nat.le_succ minNameLength)
          exact hdotted.not_prefix (hshort.trans hplain)
        · exact Nat.not_succ_le_self _ (hlater.le_of_take hend hn)
      · have hshort := (prefix_lower_iff (hsmall.take _)).mpr (Or.inr hdotted)
        exact le_commonLength_iff.mpr ⟨hlong, hshort⟩
    rw [hcommon]

namespace Scanner

theorem recognizes_nameIn {names : List Text} (hnames : AreNames names) :
    Recognizes (nameIn names : Scanner Text Nat) fun s i rest =>
      ∃ run behindRun name, IsRun isLetter s run behindRun ∧ names[i]? = some name ∧
        name.take minNameLength <+: lower run ∧
        rest = s.drop (commonLength (lower run) name) := by
  refine ⟨?_, ?_, ?_⟩
  · intro s i rest _
    constructor
    · intro hread
      rw [nameIn_text] at hread
      dsimp only at hread
      split_ifs at hread
      split at hread
      · next j hj =>
          obtain ⟨hlt, hfound, _⟩ := List.findIdx?_eq_some_iff_getElem.mp hj
          cases hread
          refine ⟨_, _, _, isRun_iff.mpr ⟨rfl, rfl⟩, List.getElem?_eq_getElem hlt,
            List.isPrefixOf_iff_prefix.mp hfound, ?_⟩
          rw [List.getD_eq_getElem _ _ hlt]
      · cases hread
    · rintro ⟨run, behindRun, name, hrun, hname, hbegins, rfl⟩
      obtain ⟨rfl, rfl⟩ := isRun_iff.mp hrun
      obtain ⟨hlt, rfl⟩ := List.getElem?_eq_some_iff.mp hname
      refine nameIn_of_begins hlt ?_ ?_ hbegins
      · rw [List.length_take, Nat.min_eq_left (hnames.long _ (List.getElem_mem hlt))]
      · intro j hj
        exact List.pairwise_iff_getElem.mp hnames.apart j i (by omega) hlt hj
  · intro s cause rest _ hfault
    rw [nameIn_text] at hfault
    dsimp only at hfault
    split_ifs at hfault
    split at hfault <;> cases hfault
  · rintro s i rest ⟨_, _, _, _, _, _, rfl⟩
    exact List.drop_suffix _ _

theorem recognizes_endOfMonthDay (month : Nat) : Recognizes (do
      let _ ← Scanner.optional (literal ['.'])
      blanks
      let _ ← Scanner.optional (literal [','])
      blanks
      let day ← numeral
      Scanner.guard (decide (1 ≤ day) && decide (day ≤ 31))
      return (month, day) : Scanner Text (Nat × Nat)) fun s value rest =>
        ∃ day, EndsMonthDay s day rest ∧ value = (month, day) := by
  refine ((recognizes_mark (by decide)).bind fun _ => recognizes_blanks.bind fun _ =>
    (recognizes_mark (by decide)).bind fun _ => recognizes_blanks.bind fun _ =>
      recognizes_numeral.bind fun day => (Recognizes.guard _).bind fun _ =>
        Recognizes.pure (month, day)).congr ?_
  intro s value rest
  constructor
  · rintro ⟨_, _, hpoint, _, _, hskips, _, _, hcomma, _, _, hskips', day, _, hday, _, _,
      ⟨hguard, rfl⟩, rfl, rfl⟩
    rw [Bool.and_eq_true, decide_eq_true_iff, decide_eq_true_iff] at hguard
    refine ⟨day, .intro ?_ hskips ?_ hskips' hday hguard.1 hguard.2, rfl⟩
    · exact hpoint.imp And.left fun h => ⟨h.1, h.2.2⟩
    · exact hcomma.imp And.left fun h => ⟨h.1, h.2.2⟩
  · rintro ⟨_, ⟨hpoint, hskips, hcomma, hskips', hday, hmin, hmax⟩, rfl⟩
    have hmark : ∀ {mark : Char} {s rest : Text}, MayHave mark s rest → ∃ found : Option Unit,
        s = mark :: rest ∧ found = some () ∨ s.head? ≠ some mark ∧ found = none ∧ rest = s := by
      rintro mark s rest (h | ⟨hhead, h⟩)
      · exact ⟨some (), Or.inl ⟨h, rfl⟩⟩
      · exact ⟨none, Or.inr ⟨hhead, rfl, h⟩⟩
    obtain ⟨_, hpoint⟩ := hmark hpoint
    obtain ⟨_, hcomma⟩ := hmark hcomma
    exact ⟨_, _, hpoint, (), _, hskips, _, _, hcomma, (), _, hskips', _, _, hday, (), _,
      ⟨by simp [hmin, hmax], rfl⟩, rfl, rfl⟩

end Scanner

/-- What follows the name of a month does not start with a letter. -/
theorem EndsMonthDay.not_letter {s rest : Text} {day : Nat} (h : EndsMonthDay s day rest) :
    ∀ c ∈ s.head?, isLetter c = false := by
  obtain ⟨hpoint, hskips, hcomma, hskips', hday, _, _⟩ := h
  intro c hc
  rw [← Bool.not_eq_true]
  intro hletter
  obtain ⟨s, rfl⟩ : ∃ more, s = c :: more := ⟨s.tail, List.eq_cons_of_mem_head? hc⟩
  cases hpoint.eq_of_letter hletter (by decide)
  cases hskips.eq_of_letter hletter
  cases hcomma.eq_of_letter hletter (by decide)
  cases hskips'.eq_of_letter hletter
  exact not_digits_of_letter hletter hday

namespace Scanner

theorem recognizes_monthDay : Recognizes (monthDay : Scanner Text (Nat × Nat))
    (WritesMonthDay fun name run => Shortens name run ∨ ShortensDotted name run) := by
  have hmonth := (recognizes_nameIn areNames_months).map fun i => i + 1
  refine (recognizes_blanks.bind fun _ => hmonth.bind fun month =>
    recognizes_endOfMonthDay month).congr ?_
  intro s value rest
  constructor
  · rintro ⟨_, atName, hskips, _, middle,
      ⟨i, ⟨run, behindRun, name, hrun, hname, hbegins, rfl⟩, rfl⟩, day, hend, rfl⟩
    have hmem := List.mem_of_getElem? hname
    have hsmall := areNames_months.small name hmem
    have hwhole : commonLength (lower run) name = run.length := by
      -- otherwise a letter of the run follows what is read
      refine (commonLength_le hsmall.2.1).eq_of_not_lt fun hlt => ?_
      rw [hrun.1, List.drop_append_of_le_length hlt.le, List.drop_eq_getElem_cons hlt] at hend
      have hletter := hend.not_letter _ rfl
      rw [hrun.2.1 _ (List.getElem_mem hlt)] at hletter
      cases hletter
    rw [hwhole, hrun.1, List.drop_left] at hend
    exact .intro hskips hrun hname
      ((shortens_iff hsmall (areNames_months.long name hmem)).mp ⟨hbegins, hwhole⟩) hend
  · rintro ⟨hskips, hrun, hname, hwrites, hend⟩
    have hmem := List.mem_of_getElem? hname
    obtain ⟨hbegins, hwhole⟩ :=
      (shortens_iff (areNames_months.small _ hmem) (areNames_months.long _ hmem)).mpr hwrites
    refine ⟨(), _, hskips, _, _, ⟨_, ⟨_, _, _, hrun, hname, hbegins, rfl⟩, rfl⟩, _, ?_, rfl⟩
    rwa [hwhole, hrun.1, List.drop_left]

theorem recognizes_weekday : Recognizes (weekday : Scanner Text Nat) fun s i rest =>
    ∃ run behindRun name length, IsRun isLetter s run behindRun ∧ weekdayNames[i]? = some name ∧
      (StartsName name run length ∨ StartsNameDotted name run length) ∧ rest = s.drop length := by
  have hend : ∀ name ∈ weekdayNames, 'i' ∉ name.drop minNameLength := by decide
  refine (recognizes_nameIn areNames_weekdays).congr ?_
  intro s i rest
  refine exists_congr fun run => exists_congr fun behindRun => exists_congr fun name => ?_
  constructor
  · rintro ⟨hrun, hname, hbegins, rfl⟩
    have hmem := List.mem_of_getElem? hname
    exact ⟨_, hrun, hname, (startsName_iff (areNames_weekdays.small _ hmem)
      (areNames_weekdays.long _ hmem) (hend _ hmem)).mp ⟨hbegins, rfl⟩, rfl⟩
  · rintro ⟨length, hrun, hname, hstarts, rfl⟩
    have hmem := List.mem_of_getElem? hname
    obtain ⟨hbegins, rfl⟩ := (startsName_iff (areNames_weekdays.small _ hmem)
      (areNames_weekdays.long _ hmem) (hend _ hmem)).mpr hstarts
    exact ⟨hrun, hname, hbegins, rfl⟩

theorem recognizes_amountAhead : Recognizes (amountAhead : Scanner Text Offset)
    fun s offset rest => ∃ atAmount amount behindAmount atUnit run unit,
      Skips s atAmount ∧ Digits atAmount amount behindAmount ∧ Skips behindAmount atUnit ∧
        IsRun isLetter atUnit run rest ∧ Span.ofWord? (lower run) = some unit ∧
        offset = .later amount unit := by
  have hread : Recognizes (amountAhead : Scanner Text Offset) _ :=
    recognizes_blanks.bind fun _ => recognizes_numeral.bind fun amount =>
      recognizes_blanks.bind fun _ => recognizes_word.bind
        (k := fun word s offset rest =>
          ∃ unit, Span.ofWord? word = some unit ∧ offset = .later amount unit ∧ rest = s)
        fun word => by
          cases Span.ofWord? word with
          | none => exact Recognizes.fail.congr (by simp)
          | some unit => exact (Recognizes.pure _).congr (by simp)
  refine hread.congr ?_
  intro s offset rest
  constructor
  · rintro ⟨_, _, hskips, amount, _, hamount, _, _, hskips', _, _, ⟨run, hrun, rfl⟩, unit, hunit,
      rfl, rfl⟩
    exact ⟨_, amount, _, _, run, unit, hskips, hamount, hskips', hrun, hunit, rfl⟩
  · rintro ⟨_, amount, _, _, run, unit, hskips, hamount, hskips', hrun, hunit, rfl⟩
    exact ⟨(), _, hskips, amount, _, hamount, (), _, hskips', _, _, ⟨run, hrun, rfl⟩, unit, hunit,
      rfl, rfl⟩

theorem recognizes_nextWeekday (today : Date) :
    Recognizes (nextWeekday today : Scanner Text Offset) fun s offset rest =>
      ∃ atName i days, Skips s atName ∧
        (∃ run behindRun name length, IsRun isLetter atName run behindRun ∧
          weekdayNames[i]? = some name ∧
          (StartsName name run length ∨ StartsNameDotted name run length) ∧
          rest = atName.drop length) ∧
        IsNext i today.dayNumber (today.dayNumber + days) ∧ offset = .morning days := by
  refine (recognizes_blanks.bind fun _ => recognizes_weekday.bind fun i =>
    Recognizes.pure (Offset.morning (today.daysUntil i))).congr ?_
  intro s offset rest
  have hnext : ∀ {i : Nat} {name : Text}, weekdayNames[i]? = some name →
      IsNext i today.dayNumber (today.dayNumber + today.daysUntil i) :=
    fun hname => today.isNext_daysUntil _ (List.getElem?_eq_some_iff.mp hname).1
  constructor
  · rintro ⟨_, atName, hskips, i, _, hweekday, rfl, rfl⟩
    have hweekday' := hweekday
    obtain ⟨_, _, _, _, _, hname, _⟩ := hweekday'
    exact ⟨atName, i, _, hskips, hweekday, hnext hname, rfl⟩
  · rintro ⟨atName, i, days, hskips, hweekday, hdays, rfl⟩
    have hweekday' := hweekday
    obtain ⟨_, _, _, _, _, hname, _⟩ := hweekday'
    have heq : days = today.daysUntil i := by
      have h := hdays.unique (hnext hname)
      omega
    exact ⟨(), atName, hskips, i, _, hweekday, by rw [heq], rfl⟩

/-- Only one of the words is read. -/
theorem relativeWords_unique {word word' s rest rest' : Text} (hword : word ∈ relativeWords)
    (hword' : word' ∈ relativeWords) (h : IsKeyword word s rest) (h' : IsKeyword word' s rest') :
    word = word' ∧ rest = rest' := by
  have hletters : ∀ word ∈ relativeWords, ∀ c ∈ word, isLetter c = true := by
    simpa using (by decide : (relativeWords.all fun word => word.all isLetter) = true)
  exact h.unique (hletters _ hword) (hletters _ hword') h'

theorem recognizes_relative (today : Date) : Recognizes (relative today : Scanner Text Offset)
    (WritesOffset (fun name run length => StartsName name run length ∨
      StartsNameDotted name run length) today) := by
  have hapart : ∀ {word word' s rest rest' : Text}, word ∈ relativeWords → word' ∈ relativeWords →
      word ≠ word' → IsKeyword word s rest → ¬ IsKeyword word' s rest' :=
    fun hword hword' hne h h' => hne (relativeWords_unique hword hword' h h').1
  have htomorrow := (recognizes_keyword "tomorrow".toList (by decide)).map
    fun _ => Offset.morning 1
  have hin := (recognizes_keyword "in".toList (by decide)).bind
    fun _ => recognizes_amountAhead
  have hnext := (recognizes_keyword "next".toList (by decide)).bind
    fun _ => recognizes_nextWeekday today
  have hlast := hin.orElse_of_apart hnext fun ⟨_, _, h, _⟩ ⟨_, _, h', _⟩ =>
    hapart (by decide) (by decide) (by decide) h h'
  have hall := htomorrow.orElse_of_apart hlast fun ⟨_, h, _⟩ h' => h'.elim
    (fun ⟨_, _, h', _⟩ => hapart (by decide) (by decide) (by decide) h h')
    (fun ⟨_, _, h', _⟩ => hapart (by decide) (by decide) (by decide) h h')
  refine (recognizes_blanks.bind fun _ => hall).congr ?_
  intro s offset rest
  constructor
  · rintro ⟨_, _, hskips, ⟨_, hkeyword, rfl⟩ | ⟨_, _, hkeyword, _, amount, _, _, run, unit, hskips',
      hamount, hskips'', hrun, hunit, rfl⟩ | ⟨_, _, hkeyword, _, i, days, hskips',
        ⟨run, _, name, length, hrun, hname, hstarts, rfl⟩, hdays, rfl⟩⟩
    · exact .tomorrow hskips hkeyword
    · exact .later hskips hkeyword hskips' hamount hskips'' hrun hunit
    · exact .next (.intro hskips hkeyword hskips' hrun hname hstarts hdays)
  · rintro (⟨hskips, hkeyword⟩ | ⟨hskips, hkeyword, hskips', hamount, hskips'', hrun, hunit⟩ |
      ⟨hskips, hkeyword, hskips', hrun, hname, hstarts, hdays⟩)
    · exact ⟨(), _, hskips, Or.inl ⟨(), hkeyword, rfl⟩⟩
    · exact ⟨(), _, hskips, Or.inr (Or.inl ⟨(), _, hkeyword, _, _, _, _, _, _, hskips', hamount,
        hskips'', hrun, hunit, rfl⟩)⟩
    · exact ⟨(), _, hskips, Or.inr (Or.inr ⟨(), _, hkeyword, _, _, _, hskips',
        ⟨_, _, _, _, hrun, hname, hstarts, rfl⟩, hdays, rfl⟩)⟩

end Scanner

/-- A whole run of letters does not write one name as it is and another with a dotted capital I. -/
theorem Shortens.not_dotted {name other run : Text} (hplain : AllPlain name)
    (h : Shortens name run) : ¬ ShortensDotted other run := by
  rintro ⟨_, front, rfl, _⟩
  have hmem : dottedI.toLower ∈ name := h.2.subset (List.mem_map_of_mem (by simp))
  exact absurd (hplain _ hmem) (by decide)

theorem StartsName.not_dotted {i j : Nat} {name other run : Text} {length length' : Nat}
    (hname : weekdayNames[i]? = some name) (hother : weekdayNames[j]? = some other)
    (h : StartsName name run length) : ¬ StartsNameDotted other run length' := by
  rintro ⟨hdotted, _⟩
  have hmem := List.mem_of_getElem? hname
  have hmem' := List.mem_of_getElem? hother
  have hlong := areNames_weekdays.long name hmem
  have hlong' := areNames_weekdays.long other hmem'
  have hstart := (prefix_lower_iff ((areNames_weekdays.small name hmem).take _)).mpr (Or.inl h.1)
  have hstart' := (prefix_lower_iff ((areNames_weekdays.small other hmem').take _)).mpr
    (Or.inr hdotted)
  -- both are the first letters of the lowercase
  have hsame : name.take minNameLength = other.take minNameLength := by
    have hle : (name.take minNameLength).length = (other.take minNameLength).length := by
      rw [List.length_take, List.length_take, Nat.min_eq_left hlong, Nat.min_eq_left hlong']
    exact (List.prefix_of_prefix_length_le hstart hstart' hle.le).eq_of_length hle
  exact hdotted.not_prefix (hsame ▸ h.1)

theorem writesMonthDay_or {writesName writesName' : Text → Text → Prop} {s rest : Text}
    {value : Nat × Nat} :
    WritesMonthDay (fun name run => writesName name run ∨ writesName' name run) s value rest ↔
      WritesMonthDay writesName s value rest ∨ WritesMonthDay writesName' s value rest := by
  constructor
  · rintro ⟨hskips, hrun, hname, hwrites | hwrites, hend⟩
    · exact Or.inl (.intro hskips hrun hname hwrites hend)
    · exact Or.inr (.intro hskips hrun hname hwrites hend)
  · rintro (⟨hskips, hrun, hname, hwrites, hend⟩ | ⟨hskips, hrun, hname, hwrites, hend⟩)
    · exact .intro hskips hrun hname (Or.inl hwrites) hend
    · exact .intro hskips hrun hname (Or.inr hwrites) hend

theorem writesOffset_or {startsName startsName' : Text → Text → Nat → Prop} {today : Date}
    {s rest : Text} {offset : Offset} :
    WritesOffset (fun name run length => startsName name run length ∨ startsName' name run length)
        today s offset rest ↔
      WritesOffset startsName today s offset rest ∨ WritesNext startsName' today s offset rest := by
  constructor
  · rintro (⟨hskips, hkeyword⟩ | ⟨hskips, hkeyword, hskips', hamount, hskips'', hrun, hunit⟩ |
      ⟨hskips, hkeyword, hskips', hrun, hname, hstarts | hstarts, hdays⟩)
    · exact Or.inl (.tomorrow hskips hkeyword)
    · exact Or.inl (.later hskips hkeyword hskips' hamount hskips'' hrun hunit)
    · exact Or.inl (.next (.intro hskips hkeyword hskips' hrun hname hstarts hdays))
    · exact Or.inr (.intro hskips hkeyword hskips' hrun hname hstarts hdays)
  · rintro ((⟨hskips, hkeyword⟩ | ⟨hskips, hkeyword, hskips', hamount, hskips'', hrun, hunit⟩ |
      ⟨hskips, hkeyword, hskips', hrun, hname, hstarts, hdays⟩) |
      ⟨hskips, hkeyword, hskips', hrun, hname, hstarts, hdays⟩)
    · exact .tomorrow hskips hkeyword
    · exact .later hskips hkeyword hskips' hamount hskips'' hrun hunit
    · exact .next (.intro hskips hkeyword hskips' hrun hname (Or.inl hstarts) hdays)
    · exact .next (.intro hskips hkeyword hskips' hrun hname (Or.inr hstarts) hdays)

/-- The grammars with and without a dotted capital I write nothing in common. -/
theorem WritesMonthDay.not_dotted {s rest rest' : Text} {value value' : Nat × Nat}
    (h : WritesMonthDay Shortens s value rest) :
    ¬ WritesMonthDay ShortensDotted s value' rest' := by
  rintro ⟨hskips', hrun', _, hdotted, _⟩
  obtain ⟨hskips, hrun, hname, hwrites, _⟩ := h
  cases hskips.unique hskips'
  obtain ⟨rfl, _⟩ := hrun.unique hrun'
  exact hwrites.not_dotted (areNames_months.small _ (List.mem_of_getElem? hname)).2.1 hdotted

theorem WritesOffset.not_dotted {today : Date} {s rest rest' : Text} {offset offset' : Offset}
    (h : WritesOffset StartsName today s offset rest) :
    ¬ WritesNext StartsNameDotted today s offset' rest' := by
  rintro ⟨hskips', hkeyword', hnext', hrun', hname', hdotted, _⟩
  rcases h with ⟨hskips, hkeyword⟩ | ⟨hskips, hkeyword, _⟩ |
    ⟨hskips, hkeyword, hnext, hrun, hname, hstarts, _⟩
  all_goals
    cases hskips.unique hskips'
    obtain ⟨hword, rfl⟩ := relativeWords_unique (by decide) (by decide) hkeyword hkeyword'
  · exact absurd hword (by decide)
  · exact absurd hword (by decide)
  · cases hnext.unique hnext'
    obtain ⟨rfl, _⟩ := hrun.unique hrun'
    exact hstarts.not_dotted hname hname' hdotted

/-- What the scanners of days accept. In a text whose numerals are short enough to be read, a cursor
finds the day of a month, and the day or time counted from now, that the grammar writes there, and
where the grammar writes nothing there is none and the cursor stays; but a word that has a dotted
capital I where the last letter that is read of a name is an `i` is taken for the name as well, and
nothing else is. -/
theorem scan_days (c : Cursor) (hc : c.IsInside) (hfit : NumeralsFit c.text) (today : Date) :
    (c.Finds (fun s value rest => WritesMonthDay Shortens s value rest ∨
        WritesMonthDay ShortensDotted s value rest) (c.scan monthDay) ∧
      (c.Finds (WritesMonthDay Shortens) (c.scan monthDay) ↔
        ¬ ∃ value rest, WritesMonthDay ShortensDotted c.rest value rest)) ∧
    c.Finds (fun s offset rest => WritesOffset StartsName today s offset rest ∨
        WritesNext StartsNameDotted today s offset rest) (c.scan (relative today)) ∧
      (c.Finds (WritesOffset StartsName today) (c.scan (relative today)) ↔
        ¬ ∃ offset rest, WritesNext StartsNameDotted today c.rest offset rest) := by
  have hmonth := Cursor.finds_of_recognizes (p := monthDay)
    (recognizes_monthDay.congr fun _ _ _ => writesMonthDay_or) hc hfit
  have hoffset := Cursor.finds_of_recognizes (p := relative today)
    ((recognizes_relative today).congr fun _ _ _ => writesOffset_or) hc hfit
  exact ⟨⟨hmonth, hmonth.iff_of_or WritesMonthDay.not_dotted⟩,
    hoffset, hoffset.iff_of_or WritesOffset.not_dotted⟩

/-- A name is read as far as it goes along with the word: a month to the end of it, a weekday up to
the first other letter. -/
theorem scan_days_september :
    (⟨"Sept. , 5th".toList, 0⟩ : Cursor).scan monthDay =
        (.ok (some (9, 5)), ⟨"Sept. , 5th".toList, 9⟩) ∧
      (⟨"next Frisbee".toList, 0⟩ : Cursor).scan (relative ⟨2026, 10, 19, by decide⟩) =
        (.ok (some (.morning 4)), ⟨"next Frisbee".toList, 8⟩) := by
  have hday : EndsMonthDay ". , 5th".toList 5 "th".toList := by
    have hpoint : MayHave '.' ". , 5th".toList " , 5th".toList := Or.inl rfl
    have hcomma : MayHave ',' ", 5th".toList " 5th".toList := Or.inl rfl
    have hdigits : Digits "5th".toList 5 "th".toList :=
      ⟨['5'], by simp, isRun_iff.mpr ⟨rfl, rfl⟩, rfl⟩
    exact .intro hpoint ⟨[' '], isRun_iff.mpr ⟨rfl, rfl⟩⟩ hcomma ⟨[' '], isRun_iff.mpr ⟨rfl, rfl⟩⟩
      hdigits (by simp) (by simp)
  have hseptember : WritesMonthDay Shortens "Sept. , 5th".toList (8 + 1, 5) "th".toList := by
    have hrun : IsRun isLetter "Sept. , 5th".toList "Sept".toList ". , 5th".toList :=
      isRun_iff.mpr ⟨rfl, rfl⟩
    have hname : monthNames[8]? = some "september".toList := rfl
    exact .intro ⟨[], isRun_iff.mpr ⟨rfl, rfl⟩⟩ hrun hname ⟨by decide, by decide⟩ hday
  have hfriday : WritesNext StartsName ⟨2026, 10, 19, by decide⟩ "next Frisbee".toList (.morning 4)
      ("Frisbee".toList.drop 3) := by
    have hkeyword : IsKeyword "next".toList "next Frisbee".toList " Frisbee".toList :=
      ⟨⟨"next".toList, rfl, rfl⟩, by rintro c ⟨⟩; rfl⟩
    have hrun : IsRun isLetter "Frisbee".toList "Frisbee".toList [] := isRun_iff.mpr ⟨rfl, rfl⟩
    have hname : weekdayNames[4]? = some "friday".toList := rfl
    exact .intro ⟨[], isRun_iff.mpr ⟨rfl, rfl⟩⟩ hkeyword ⟨[' '], isRun_iff.mpr ⟨rfl, rfl⟩⟩ hrun
      hname ⟨by decide, by decide⟩ (Date.isNext_daysUntil _ 4 (by decide))
  have hmonth := scan_days ⟨"Sept. , 5th".toList, 0⟩ ⟨by simp, by simp⟩
    (numeralsFit_of_length (by decide)) ⟨2026, 10, 19, by decide⟩
  have hoffset := scan_days ⟨"next Frisbee".toList, 0⟩ ⟨by simp, by simp⟩
    (numeralsFit_of_length (by decide)) ⟨2026, 10, 19, by decide⟩
  exact ⟨(hmonth.1.1.1 (9, 5) _).mpr ⟨_, Or.inl hseptember, rfl⟩,
    (hoffset.2.1.1 (.morning 4) _).mpr ⟨_, Or.inl (.next hfriday), rfl⟩⟩

/-- A dotted capital I is taken for the last letter of a shortened month. -/
theorem scan_days_dotted :
    (⟨"apr\u0130 5".toList, 0⟩ : Cursor).scan monthDay =
        (.ok (some (4, 5)), ⟨"apr\u0130 5".toList, 6⟩) ∧
      ¬ (⟨"apr\u0130 5".toList, 0⟩ : Cursor).Finds (WritesMonthDay Shortens)
        ((⟨"apr\u0130 5".toList, 0⟩ : Cursor).scan monthDay) := by
  have hread : (⟨"apr\u0130 5".toList, 0⟩ : Cursor).scan monthDay =
      (.ok (some (4, 5)), ⟨"apr\u0130 5".toList, 6⟩) := by decide +kernel
  have hday : EndsMonthDay " 5".toList 5 [] := by
    have hpoint : MayHave '.' " 5".toList " 5".toList := Or.inr ⟨by simp, rfl⟩
    have hcomma : MayHave ',' ['5'] ['5'] := Or.inr ⟨by simp, rfl⟩
    exact .intro hpoint ⟨[' '], isRun_iff.mpr ⟨rfl, rfl⟩⟩ hcomma ⟨[], isRun_iff.mpr ⟨rfl, rfl⟩⟩
      ⟨['5'], by simp, isRun_iff.mpr ⟨rfl, rfl⟩, rfl⟩ (by simp) (by simp)
  have hdotted : WritesMonthDay ShortensDotted "apr\u0130 5".toList (3 + 1, 5) [] := by
    have hrun : IsRun isLetter "apr\u0130 5".toList "apr\u0130".toList " 5".toList :=
      isRun_iff.mpr ⟨rfl, rfl⟩
    have hname : monthNames[3]? = some "april".toList := rfl
    exact .intro ⟨[], isRun_iff.mpr ⟨rfl, rfl⟩⟩ hrun hname
      ⟨by decide, "apr".toList, by decide, by decide⟩ hday
  refine ⟨hread, fun hfinds => ?_⟩
  obtain ⟨_, hwrites, _⟩ := (hfinds.1 _ _).mp hread
  exact hwrites.not_dotted hdotted

end Agenda.Phrase
