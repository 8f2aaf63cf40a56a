import Agenda.Proofs.Phrase.Beginning
import Mathlib

/-!
Changes of a text that no scanner notices. A scanner ignores a change if it reads from the changed
text what it reads from the text, and leaves the changed rest. If the scanners of single tokens
ignore a change, so does every grammar, and each rule means the same with it.
-/

namespace Agenda.Phrase

open Calendar Clock Text

/-- The marks that phrases may hold. -/
def marks : Text := [':', '.', ',']

/-- A text in lowercase that is made of plain letters and marks. -/
def IsToken (t : Text) : Prop :=
  lower t = t ∧ AllPlain t ∧ (t.all fun c => isLetter c || marks.contains c) = true

instance (t : Text) : Decidable (IsToken t) :=
  inferInstanceAs (Decidable (lower t = t ∧ AllPlain t ∧
    (t.all fun c => isLetter c || marks.contains c) = true))

/-- The outcome of a scan with another rest. -/
def Scanned.mapRest {α : Type} (edit : Text → Text) : Scanned Text α → Scanned Text α
  | .accept a rest => .accept a (edit rest)
  | .reject => .reject
  | .fault cause rest => .fault cause (edit rest)

theorem Scanned.mapRest_mapRest {α : Type} (edit further : Text → Text) (found : Scanned Text α) :
    (found.mapRest edit).mapRest further = found.mapRest fun rest => further (edit rest) := by
  cases found <;> rfl

namespace Scanner

variable {α β : Type} {edit : Text → Text}

/-- The scanner does with the changed text what it does with the text. -/
def Ignores (edit : Text → Text) (p : Scanner Text α) : Prop :=
  ∀ s, p (edit s) = (p s).mapRest edit

theorem Ignores.pure (a : α) : Ignores edit (Pure.pure a) := fun _ => rfl

theorem Ignores.fail : Ignores edit (fail : Scanner Text α) := fun _ => rfl

theorem Ignores.bind {p : Scanner Text α} {f : α → Scanner Text β} (hp : Ignores edit p)
    (hf : ∀ a, Ignores edit (f a)) : Ignores edit (p >>= f) := by
  intro s
  change p.andThen f (edit s) = (p.andThen f s).mapRest edit
  unfold andThen
  rw [hp s]
  cases p s with
  | accept a rest => exact hf a rest
  | reject => rfl
  | fault cause rest => rfl

theorem Ignores.map {p : Scanner Text α} (hp : Ignores edit p) (f : α → β) :
    Ignores edit (f <$> p) :=
  hp.bind fun a => .pure (f a)

theorem Ignores.orElse {p q : Scanner Text α} (hp : Ignores edit p) (hq : Ignores edit q) :
    Ignores edit (p.orElse q) := by
  intro s
  unfold Scanner.orElse
  rw [hp s]
  cases p s with
  | accept a rest => rfl
  | reject => exact hq s
  | fault cause rest => rfl

theorem Ignores.optional {p : Scanner Text α} (hp : Ignores edit p) :
    Ignores edit (Scanner.optional p) :=
  (hp.map some).orElse (.pure none)

theorem ignores_guard (condition : Bool) : Ignores edit (guard condition) := by
  cases condition with
  | true => exact .pure ()
  | false => exact .fail

end Scanner

open Scanner

/-- A change of texts that the scanners of blanks, numerals, words and tokens ignore. -/
structure IsIgnored (edit : Text → Text) : Prop where
  blanks : Ignores edit blanks
  numeral : Ignores edit numeral
  word : Ignores edit word
  literal : ∀ {expected}, IsToken expected → Ignores edit (literal expected)
  startsWithLetter : ∀ s, startsWithLetter (edit s) = startsWithLetter s
  nameIn : ∀ {names : List Text}, (∀ name ∈ names, AllPlain name) → Ignores edit (nameIn names)

namespace IsIgnored

variable {edit : Text → Text} (h : IsIgnored edit)
include h

theorem keyword {expected : Text} (ht : IsToken expected) : Ignores edit (keyword expected) := by
  refine (h.literal ht).bind fun _ s => ?_
  have hahead : ∀ t : Text, (do guard (!Scanner.startsWithLetter (← ahead)) : Scanner Text Unit) t =
      guard (!Scanner.startsWithLetter t) t := fun _ => rfl
  rw [hahead, hahead, h.startsWithLetter]
  exact ignores_guard _ s

theorem weekday : Ignores edit weekday :=
  h.nameIn (by decide)

theorem month : Ignores edit month :=
  (h.nameIn (by decide)).map _

theorem halfOfDay : Ignores edit halfOfDay := by
  refine .orElse ?_ (.orElse ?_ (.orElse ?_ ?_))
  all_goals
    apply Ignores.map
    exact h.keyword (by decide)

theorem timeOfDay : Ignores edit timeOfDay := by
  have hcolon : IsToken [':'] := by decide
  refine h.blanks.bind fun _ => h.numeral.bind fun hour => h.blanks.bind fun _ =>
    (h.literal hcolon).optional.bind fun colon => ?_
  have hrest : ∀ minute : Nat, Ignores edit (do
      Scanner.blanks
      let hour := hourOfDay hour (← Scanner.optional Phrase.halfOfDay)
      guard (decide (hour ≤ 23) && decide (minute ≤ 59))
      return (hour, minute)) := by
    intro minute
    exact h.blanks.bind fun _ => h.halfOfDay.optional.bind fun _ => (ignores_guard _).bind fun _ =>
      .pure _
  cases colon with
  | none => exact (Ignores.pure 0).bind hrest
  | some _ => exact h.numeral.bind hrest

theorem monthDay : Ignores edit monthDay := by
  have hpoint : IsToken ['.'] := by decide
  have hcomma : IsToken [','] := by decide
  exact h.blanks.bind fun _ => h.month.bind fun _ => (h.literal hpoint).optional.bind fun _ =>
    h.blanks.bind fun _ => (h.literal hcomma).optional.bind fun _ => h.blanks.bind fun _ =>
      h.numeral.bind fun _ => (ignores_guard _).bind fun _ => .pure _

theorem amountAhead : Ignores edit amountAhead := by
  refine h.blanks.bind fun _ => h.numeral.bind fun amount => h.blanks.bind fun _ =>
    h.word.bind fun word => ?_
  split
  · exact .pure _
  · exact .fail

theorem relative (today : Date) : Ignores edit (relative today) := by
  have htomorrow : IsToken "tomorrow".toList := by decide
  have hin : IsToken "in".toList := by decide
  have hnext : IsToken "next".toList := by decide
  refine h.blanks.bind fun _ => .orElse ?_ (.orElse ?_ ?_)
  · exact (h.keyword htomorrow).map _
  · exact (h.keyword hin).bind fun _ => h.amountAhead
  · exact (h.keyword hnext).bind fun _ => h.blanks.bind fun _ => h.weekday.bind fun _ => .pure _

theorem trimStart_eq (text : Text) : trimStart (edit text) = edit (trimStart text) := by
  have hblanks := h.blanks text
  rw [blanks_text, blanks_text] at hblanks
  exact (Scanned.accept.inj hblanks).2

variable (z : Zone) (now : LocalTime) (text : Text)

theorem readRelative : readRelative z now (edit text) = readRelative z now text := by
  unfold Phrase.readRelative
  rw [h.relative now.date text]
  cases Phrase.relative now.date text with
  | accept offset rest => cases offset <;> rfl
  | reject => rfl
  | fault cause rest => rfl

theorem readAbsolute : readAbsolute z now (edit text) = readAbsolute z now text := by
  unfold Phrase.readAbsolute
  rw [h.monthDay text, h.trimStart_eq, h.weekday (trimStart text)]
  cases Phrase.monthDay text with
  | accept found rest => rfl
  | reject => cases Phrase.weekday (trimStart text) <;> rfl
  | fault cause rest => rfl

theorem readTime : readTime z now (edit text) = readTime z now text := by
  unfold Phrase.readTime
  rw [h.timeOfDay text]
  cases Phrase.timeOfDay text <;> rfl

theorem firstRule : firstRule rules z now (edit text) = firstRule rules z now text := by
  simp only [rules, Phrase.firstRule, h.readRelative, h.readAbsolute, h.readTime]

end IsIgnored

/-- A code point with which no word, numeral or mark goes on. -/
structure IsBreak (c : Char) : Prop where
  not_letter : isLetter c = false
  not_digit : isPlainDigit c = false
  not_mark : c ∉ marks

/-- A break is folded to none of the code points of a token. -/
theorem IsBreak.not_mem_token {c : Char} (hc : IsBreak c) {t : Text} (ht : IsToken t) :
    foldChar c ∉ t := by
  intro hmem
  obtain ⟨_, hplain, hall⟩ := ht
  rw [foldChar_of_not_letter hc.not_letter (hplain _ hmem)] at hmem
  have hkind := List.all_eq_true.mp hall c hmem
  rw [hc.not_letter, Bool.false_or, List.contains_iff_mem] at hkind
  exact hc.not_mark hkind

namespace Scanner

/-- A text has no token for its lowercase if one of its code points is folded to none of the
token, or if it is shorter. -/
private theorem lower_ne_token {expected t : Text} (ht : IsToken expected)
    (h : (t.length ≤ expected.length ∧ ∃ c ∈ t, foldChar c ∉ expected) ∨
      t.length < expected.length) : lower t ≠ lower expected := by
  obtain ⟨hlower, hplain, _⟩ := ht
  rw [hlower]
  intro heq
  have hfold : expected <+: t.map foldChar := prefix_fold_of_prefix_lower hplain (by rw [heq])
  rcases h with ⟨hlength, c, hc, hnot⟩ | hshort
  · rw [hfold.eq_of_length_le (by simpa using hlength)] at hnot
    exact hnot (List.mem_map_of_mem hc)
  · have hle := hfold.length_le
    rw [List.length_map] at hle
    omega

/-- Names have code points in common with a word no further than the word goes, even if the word
became longer in lowercase. -/
theorem commonLength_le {s name : Text} (hplain : AllPlain name) :
    commonLength (lower s) name ≤ s.length := by
  obtain ⟨hle, hbegins⟩ := le_commonLength_iff.mp (le_refl (commonLength (lower s) name))
  have hshort := length_le_of_prefix_lower
    (fun c hc => hplain c (List.mem_of_mem_take hc)) hbegins
  rwa [List.length_take, Nat.min_eq_left hle] at hshort

theorem allPlain_getD {names : List Text} (hnames : ∀ name ∈ names, AllPlain name) (i : Nat) :
    AllPlain (names.getD i []) := by
  rw [List.getD_eq_getElem?_getD]
  cases hget : names[i]? with
  | none => exact nofun
  | some name => exact hnames name (List.mem_of_getElem? hget)

section Breaks

variable {tail : Text} (htail : ∀ c ∈ tail.head?, IsBreak c)
include htail

theorem word_append : Ignores (· ++ tail) word := by
  intro s
  have hletter := fun c hc => (htail c hc).not_letter
  rw [word_text, word_text, takeWhile_append hletter, dropWhile_append hletter]
  rfl

theorem numeral_append : Ignores (· ++ tail) numeral := by
  intro s
  have hdigit := fun c hc => (htail c hc).not_digit
  rw [numeral_text, numeral_text, takeWhile_append hdigit, dropWhile_append hdigit]
  split
  · rfl
  · unfold numberOf
    split_ifs <;> rfl

/-- A token is not read over the start of the tail, though it is compared with what stands there. -/
theorem literal_append {expected : Text} (ht : IsToken expected) :
    Ignores (· ++ tail) (literal expected) := by
  intro s
  rw [literal_text, literal_text]
  by_cases hlength : expected.length ≤ s.length
  · rw [List.take_append_of_le_length hlength, List.drop_append_of_le_length hlength]
    split <;> rfl
  -- the stretch ends in the tail, or at the end of the text if there is no tail
  have hshort : lower (s.take expected.length) ≠ lower expected := by
    apply lower_ne_token ht
    right
    rw [List.length_take]
    omega
  have hover : lower ((s ++ tail).take expected.length) ≠ lower expected := by
    cases tail with
    | nil => rwa [List.append_nil]
    | cons c rest =>
        apply lower_ne_token ht
        refine Or.inl ⟨List.length_take_le _ _, c, ?_, (htail c rfl).not_mem_token ht⟩
        rw [List.take_append, show expected.length - s.length = expected.length - s.length - 1 + 1 by
          omega, List.take_succ_cons]
        simp
  rw [if_neg hover, if_neg hshort]
  rfl

theorem startsWithLetter_append (s : Text) :
    startsWithLetter (s ++ tail) = startsWithLetter s := by
  cases s with
  | nil =>
      cases tail with
      | nil => rfl
      | cons c rest => exact (htail c rfl).not_letter
  | cons d more => rfl

theorem nameIn_append {names : List Text} (hnames : ∀ name ∈ names, AllPlain name) :
    Ignores (· ++ tail) (nameIn names) := by
  intro s
  have hletter := fun c hc => (htail c hc).not_letter
  rw [nameIn_text, nameIn_text, takeWhile_append hletter]
  dsimp only
  split
  · split
    · next i _ =>
        have hword := commonLength_le (s := s.takeWhile isLetter) (allPlain_getD hnames i)
        have hrun := (List.takeWhile_prefix isLetter (l := s)).length_le
        rw [List.drop_append_of_le_length (hword.trans hrun)]
        rfl
    · rfl
  · rfl

end Breaks

end Scanner

end Agenda.Phrase
