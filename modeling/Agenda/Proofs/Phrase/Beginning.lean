import Agenda.Phrase.Resolve
import Agenda.Proofs.Text.Fold
import Agenda.Proofs.Text.Numeral
import Agenda.Proofs.Text.Trim
import Mathlib

/-!
How phrases begin. Each rule does anything at all only with texts that begin with one of a few
words, behind blanks and in any case, and the words of one rule are no beginnings of those of
another. So at most one rule minds a text, and the order in which rules are tried does not count.
-/

namespace Agenda.Phrase

open Calendar Clock Text

namespace Scanner

section Steps

variable {σ α β : Type} {p : Scanner σ α} {f : α → Scanner σ β} {s : σ}

/-- A scanner after another one accepts on what an accepting first one has left. -/
theorem accept_of_bind {b : β} {rest : σ} (h : (p >>= f) s = .accept b rest) :
    ∃ a middle, p s = .accept a middle ∧ f a middle = .accept b rest := by
  change p.andThen f s = .accept b rest at h
  unfold andThen at h
  cases hp : p s with
  | accept a middle =>
      rw [hp] at h
      exact ⟨a, middle, rfl, h⟩
  | reject =>
      rw [hp] at h
      cases h
  | fault cause middle =>
      rw [hp] at h
      cases h

theorem of_guard_accept {condition : Bool} {rest : σ} (h : guard condition s = .accept () rest) :
    condition = true := by
  cases condition with
  | true => rfl
  | false => cases h

theorem bind_of_accept {a : α} {middle : σ} (h : p s = .accept a middle) :
    (p >>= f) s = f a middle := by
  change p.andThen f s = _
  rw [andThen, h]

theorem bind_of_reject (h : p s = .reject) : (p >>= f) s = .reject := by
  change p.andThen f s = _
  rw [andThen, h]

theorem bind_of_fault {cause : Fault} {middle : σ} (h : p s = .fault cause middle) :
    (p >>= f) s = .fault cause middle := by
  change p.andThen f s = _
  rw [andThen, h]

theorem map_of_reject {g : α → β} (h : p s = .reject) : (g <$> p) s = .reject :=
  bind_of_reject h

theorem orElse_of_reject {q : Scanner σ α} (h : p s = .reject) : p.orElse q s = q s := by
  rw [orElse, h]

theorem orElse_of_accept {q : Scanner σ α} {a : α} {rest : σ} (h : p s = .accept a rest) :
    p.orElse q s = .accept a rest := by
  rw [orElse, h]

theorem orElse_of_not_reject {q : Scanner σ α} (h : p s ≠ .reject) : p.orElse q s = p s := by
  rw [orElse]
  cases hp : p s with
  | accept a rest => rfl
  | reject => exact absurd hp h
  | fault cause rest => rfl

theorem optional_of_reject (h : p s = .reject) : Scanner.optional p s = .accept none s :=
  orElse_of_reject (map_of_reject h)

/-- Of two scanners the first accepts, or it rejects and the second accepts. -/
theorem accept_of_orElse {q : Scanner σ α} {a : α} {rest : σ}
    (h : p.orElse q s = .accept a rest) :
    p s = .accept a rest ∨ p s = .reject ∧ q s = .accept a rest := by
  unfold orElse at h
  cases hp : p s with
  | accept b middle =>
      rw [hp] at h
      exact Or.inl h
  | reject =>
      rw [hp] at h
      exact Or.inr ⟨rfl, h⟩
  | fault cause middle =>
      rw [hp] at h
      cases h

/-- What may be there is read, or is not there. -/
theorem accept_of_optional {found : Option α} {rest : σ}
    (h : Scanner.optional p s = .accept found rest) :
    (∃ a, p s = .accept a rest ∧ found = some a) ∨
      p s = .reject ∧ found = none ∧ rest = s := by
  rcases accept_of_orElse h with hsome | ⟨hreject, hnone⟩
  · obtain ⟨a, _, hread, heq⟩ := accept_of_bind hsome
    cases heq
    exact Or.inl ⟨a, hread, rfl⟩
  · cases hnone
    refine Or.inr ⟨?_, rfl, rfl⟩
    cases hread : p s with
    | accept a middle => cases hreject.symm.trans (bind_of_accept hread)
    | reject => rfl
    | fault cause middle => cases hreject.symm.trans (bind_of_fault hread)

end Steps

/-- Of two words of which neither is a beginning of the other, a text begins with one only. -/
theorem not_begins_of_apart {word other s : Text} (hapart : ¬ word <+: other ∧ ¬ other <+: word)
    (hword : word <+: s) : ¬ other <+: s := by
  intro hother
  exact (List.prefix_or_prefix_of_prefix hword hother).elim hapart.1 hapart.2

/-- A given text that is not rejected is the folded beginning of what is read. -/
theorem prefix_of_literal {expected s : Text} (hplain : AllPlain (lower expected))
    (h : literal expected s ≠ .reject) : lower expected <+: s.map foldChar := by
  rw [literal_text] at h
  have heq : lower (s.take expected.length) = lower expected := by
    by_contra hne
    exact h (if_neg hne)
  have hfront : lower expected <+: (s.take expected.length).map foldChar := by
    apply prefix_fold_of_prefix_lower hplain
    rw [heq]
  rw [List.map_take] at hfront
  exact hfront.trans (List.take_prefix _ _)

theorem prefix_of_keyword {expected s : Text} (hplain : AllPlain (lower expected))
    (h : keyword expected s ≠ .reject) : lower expected <+: s.map foldChar :=
  prefix_of_literal hplain fun hreject => h (bind_of_reject hreject)

/-- A word is no other one's beginning in front of a text that begins with this one. -/
theorem keyword_of_apart {expected word s : Text} (hplain : AllPlain (lower expected))
    (hword : word <+: s.map foldChar)
    (hapart : ¬ word <+: lower expected ∧ ¬ lower expected <+: word) :
    keyword expected s = .reject := by
  by_contra hread
  exact not_begins_of_apart hapart hword (prefix_of_keyword hplain hread)

/-- A word has so much in common with a name as the name goes along with its beginning. -/
theorem le_commonLength_iff {word name : Text} {n : Nat} :
    n ≤ commonLength word name ↔ n ≤ name.length ∧ name.take n <+: word := by
  induction word generalizing name n with
  | nil =>
      have hnone : commonLength [] name = 0 := by cases name <;> rfl
      rw [hnone, Nat.le_zero, List.prefix_nil, List.take_eq_nil_iff]
      constructor
      · rintro rfl
        exact ⟨Nat.zero_le _, Or.inl rfl⟩
      · rintro ⟨hle, rfl | rfl⟩
        · rfl
        · exact Nat.le_zero.mp hle
  | cons a rest ih =>
      cases n with
      | zero => simp
      | succ n =>
          cases name with
          | nil => simp [commonLength]
          | cons b more =>
              rw [commonLength, List.take_succ_cons, List.cons_prefix_cons, List.length_cons,
                Nat.succ_le_succ_iff]
              by_cases heq : a = b
              · rw [if_pos heq, Nat.succ_le_succ_iff, ih, eq_comm, and_iff_right heq]
              · rw [if_neg heq]
                simp [Ne.symm heq]

/-- On a text, a name is sought by the longest run of letters in front. -/
theorem nameIn_text (names : List Text) (s : Text) :
    nameIn names s =
      let word := lower (s.takeWhile isLetter)
      if minNameLength ≤ word.length then
        match names.findIdx? fun name => (name.take minNameLength).isPrefixOf word with
        | some i => .accept i (s.drop (commonLength word (names.getD i [])))
        | none => .reject
      else .reject := by
  have hcount : count (σ := Text) isLetter s = .accept (s.takeWhile isLetter).length s := rfl
  have hpeek : peek (σ := Text) (s.takeWhile isLetter).length s =
      .accept (s.takeWhile isLetter) s :=
    congrArg (Scanned.accept · s) (take_length_takeWhile isLetter s)
  unfold nameIn
  rw [bind_of_accept hcount, bind_of_accept hpeek]
  dsimp only
  by_cases hlength : minNameLength ≤ (lower (s.takeWhile isLetter)).length
  · rw [if_pos hlength, decide_eq_true hlength, bind_of_accept (guard_true s)]
    cases names.findIdx? fun name : Text =>
      (name.take minNameLength).isPrefixOf (lower (s.takeWhile isLetter)) with
    | some i => rfl
    | none => rfl
  · rw [if_neg hlength, decide_eq_false hlength, bind_of_reject (guard_false s)]

/-- The place that is read is one in the list. -/
theorem nameIn_accept {names : List Text} {s rest : Text} {i : Nat}
    (h : nameIn names s = .accept i rest) : i < names.length := by
  rw [nameIn_text] at h
  dsimp only at h
  split at h
  · split at h
    · next j hj =>
        cases h
        exact (List.findIdx?_eq_some_iff_getElem.mp hj).1
    · cases h
  · cases h

/-- The first letters of a name that is not rejected are the folded beginning of what is read. -/
theorem prefix_of_nameIn {names : List Text} {s : Text}
    (hplain : ∀ name ∈ names, AllPlain (name.take minNameLength))
    (h : nameIn names s ≠ .reject) :
    ∃ name ∈ names, name.take minNameLength <+: s.map foldChar := by
  rw [nameIn_text] at h
  dsimp only at h
  split at h
  · split at h
    · next i hi =>
        obtain ⟨hlt, hfound, _⟩ := List.findIdx?_eq_some_iff_getElem.mp hi
        refine ⟨names[i], List.getElem_mem hlt, ?_⟩
        have hword := prefix_fold_of_prefix_lower (hplain _ (List.getElem_mem hlt))
          (List.isPrefixOf_iff_prefix.mp hfound)
        exact hword.trans ((List.takeWhile_prefix isLetter).map foldChar)
    · exact absurd rfl h
  · exact absurd rfl h

/-- A name whose first letters start the word in front is read, if these start with those of no
other name, nor those with them. -/
theorem nameIn_of_begins {names : List Text} {s : Text} {i : Nat} (hi : i < names.length)
    (hlength : (names[i].take minNameLength).length = minNameLength)
    (hapart : ∀ (j : Nat) (hj : j < i),
      ¬ names[j].take minNameLength <+: names[i].take minNameLength ∧
        ¬ names[i].take minNameLength <+: names[j].take minNameLength)
    (hbegins : names[i].take minNameLength <+: lower (s.takeWhile isLetter)) :
    nameIn names s =
      .accept i (s.drop (commonLength (lower (s.takeWhile isLetter)) names[i])) := by
  have hfind : (names.findIdx? fun name =>
      (name.take minNameLength).isPrefixOf (lower (s.takeWhile isLetter))) = some i := by
    refine List.findIdx?_eq_some_iff_getElem.mpr ⟨hi, List.isPrefixOf_iff_prefix.mpr hbegins, ?_⟩
    intro j hj hearlier
    exact not_begins_of_apart (hapart j hj) (List.isPrefixOf_iff_prefix.mp hearlier) hbegins
  rw [nameIn_text]
  dsimp only
  rw [if_pos (hlength ▸ hbegins.length_le), hfind]
  dsimp only
  rw [List.getD_eq_getElem _ _ hi]

/-- A word is no name in a list if the first letters of none start with it, nor it with them. -/
theorem nameIn_of_apart {names : List Text} {word s : Text}
    (hplain : ∀ name ∈ names, AllPlain (name.take minNameLength))
    (hword : word <+: s.map foldChar)
    (hapart : ∀ name ∈ names, ¬ word <+: name.take minNameLength ∧
      ¬ name.take minNameLength <+: word) : nameIn names s = .reject := by
  by_contra hread
  obtain ⟨name, hmem, hname⟩ := prefix_of_nameIn hplain hread
  exact not_begins_of_apart (hapart name hmem) hword hname

/-- A numeral that is not rejected has a digit in front. -/
theorem digit_of_numeral {s : Text} (h : numeral s ≠ .reject) :
    ∃ c more, s = c :: more ∧ isPlainDigit c = true := by
  rw [numeral_text] at h
  cases s with
  | nil => exact absurd rfl h
  | cons c more =>
      refine ⟨c, more, rfl, ?_⟩
      by_contra hdigit
      rw [List.takeWhile_cons_of_neg hdigit] at h
      exact h rfl

/-- A run of a class ends in front of a text that starts with a code point of another class. -/
theorem takeWhile_append {p : Char → Bool} {tail : Text} (hp : ∀ c ∈ tail.head?, p c = false)
    (s : Text) : (s ++ tail).takeWhile p = s.takeWhile p := by
  cases tail with
  | nil => rw [List.append_nil]
  | cons c rest =>
      rw [List.takeWhile_append]
      split
      · next hall =>
          rw [List.takeWhile_cons_of_neg (by simp [hp c rfl]), List.append_nil]
          exact ((List.takeWhile_prefix p).eq_of_length hall).symm
      · rfl

theorem dropWhile_append {p : Char → Bool} {tail : Text} (hp : ∀ c ∈ tail.head?, p c = false)
    (s : Text) : (s ++ tail).dropWhile p = s.dropWhile p ++ tail := by
  rw [← drop_length_takeWhile, takeWhile_append hp, ← drop_length_takeWhile,
    List.drop_append_of_le_length (List.takeWhile_prefix p).length_le]

/-- A run of digits is read up to the first code point that is none. -/
theorem numeral_run {digits rest : Text} (hdigits : IsNumeral digits)
    (hrest : ∀ c ∈ rest.head?, isPlainDigit c = false) :
    numeral (digits ++ rest) = Scanner.numberOf digits rest := by
  have hrun : digits.takeWhile isPlainDigit = digits :=
    List.takeWhile_eq_self_iff.mpr hdigits.isPlainDigit
  have hmore : digits.dropWhile isPlainDigit = [] :=
    List.dropWhile_eq_nil_iff.mpr hdigits.isPlainDigit
  rw [numeral_text, takeWhile_append hrest, dropWhile_append hrest, hrun, hmore,
    if_neg hdigits.ne_nil, List.nil_append]

end Scanner

open Scanner

/-- The text begins with a word, behind blanks and in any case. -/
def BeginsWith (word text : Text) : Prop := word <+: (trimStart text).map foldChar

/-- The beginnings of a day or a time counted from now. -/
def relativeWords : List Text := ["tomorrow", "in", "next"].map String.toList

/-- The beginnings of the names of months and weekdays. -/
def absoluteWords : List Text := (monthNames ++ weekdayNames).map (·.take minNameLength)

/-- The digits that a time of day may begin with. -/
def timeWords : List Text := plainDigits.map fun c => [c]

private theorem relativeWords_plain :
    ∀ word ∈ relativeWords, lower word = word ∧ AllPlain (lower word) := by
  decide

private theorem absoluteWords_plain : ∀ word ∈ absoluteWords, AllPlain word := by
  decide +kernel

theorem relative_begins {today : Date} {text : Text} (h : relative today text ≠ .reject) :
    ∃ word ∈ relativeWords, BeginsWith word text := by
  by_contra hnone
  have hreject : ∀ word ∈ relativeWords, keyword word (trimStart text) = .reject := by
    intro word hmem
    obtain ⟨hlower, hplain⟩ := relativeWords_plain word hmem
    by_contra hread
    exact hnone ⟨word, hmem, hlower ▸ prefix_of_keyword hplain hread⟩
  apply h
  unfold relative
  rw [bind_of_accept (blanks_text text)]
  have htomorrow := map_of_reject (g := fun _ => Offset.morning 1)
    (hreject "tomorrow".toList (by decide))
  have hin := bind_of_reject (f := fun _ => amountAhead) (hreject "in".toList (by decide))
  have hnext := bind_of_reject (f := fun _ => nextWeekday today)
    (hreject "next".toList (by decide))
  exact (orElse_of_reject htomorrow).trans ((orElse_of_reject hin).trans hnext)

private theorem nameIn_begins {names : List Text}
    (hwords : ∀ name ∈ names, name.take minNameLength ∈ absoluteWords) {text : Text}
    (h : nameIn names (trimStart text) ≠ .reject) :
    ∃ word ∈ absoluteWords, BeginsWith word text := by
  obtain ⟨name, hmem, hbegins⟩ :=
    prefix_of_nameIn (fun name hmem => absoluteWords_plain _ (hwords name hmem)) h
  exact ⟨_, hwords name hmem, hbegins⟩

theorem monthDay_begins {text : Text} (h : monthDay text ≠ .reject) :
    ∃ word ∈ absoluteWords, BeginsWith word text := by
  have hwords : ∀ name ∈ monthNames, name.take minNameLength ∈ absoluteWords := by decide
  apply nameIn_begins hwords
  intro hreject
  apply h
  unfold monthDay
  rw [bind_of_accept (blanks_text text)]
  exact bind_of_reject (map_of_reject hreject)

theorem weekday_begins {text : Text} (h : weekday (trimStart text) ≠ .reject) :
    ∃ word ∈ absoluteWords, BeginsWith word text := by
  have hwords : ∀ name ∈ weekdayNames, name.take minNameLength ∈ absoluteWords := by decide
  exact nameIn_begins hwords h

/-- Behind blanks, a digit is one that a time of day may begin with. -/
theorem beginsWith_digit {c : Char} {text more : Text} (htext : trimStart text = c :: more)
    (hdigit : isPlainDigit c = true) : ∃ word ∈ timeWords, BeginsWith word text := by
  have hrange := toNat_of_isPlainDigit hdigit
  refine ⟨[c], List.mem_map_of_mem (mem_plainDigits hdigit), ?_⟩
  rw [BeginsWith, htext, List.map_cons, foldChar_plain (by omega) (by omega)]
  exact ⟨_, rfl⟩

theorem timeOfDay_begins {text : Text} (h : timeOfDay text ≠ .reject) :
    ∃ word ∈ timeWords, BeginsWith word text := by
  have hnumeral : numeral (trimStart text) ≠ .reject := by
    intro hreject
    apply h
    unfold timeOfDay
    rw [bind_of_accept (blanks_text text)]
    exact bind_of_reject hreject
  obtain ⟨c, more, htext, hdigit⟩ := digit_of_numeral hnumeral
  exact beginsWith_digit htext hdigit

/-- A rule minds only texts that begin with one of the words, at any time. -/
def Minds (rule : Rule) (words : List Text) : Prop :=
  ∀ z now text, rule z now text ≠ .ok none → ∃ word ∈ words, BeginsWith word text

theorem minds_readRelative : Minds readRelative relativeWords := by
  intro z now text h
  have hread : relative now.date text ≠ .reject := by
    intro hreject
    apply h
    unfold readRelative
    rw [hreject]
    rfl
  exact relative_begins hread

theorem minds_readAbsolute : Minds readAbsolute absoluteWords := by
  intro z now text h
  by_cases hday : monthDay text = .reject
  · apply weekday_begins
    intro hreject
    apply h
    unfold readAbsolute
    rw [hday, hreject]
    rfl
  · exact monthDay_begins hday

theorem minds_readTime : Minds readTime timeWords := by
  intro z now text h
  apply timeOfDay_begins
  intro hreject
  apply h
  unfold readTime
  rw [hreject]
  rfl

/-- Nothing but blanks is no phrase of any kind. -/
theorem rule_of_blank {rule : Rule} (hrule : rule ∈ rules) {text : Text}
    (hblank : isBlankText text = true) (z : Zone) (now : LocalTime) :
    rule z now text = .ok none := by
  have hnil : trimStart text = [] := by
    have htrim := trimStart_allBlank_append ((isBlankText_iff text).mp hblank) []
    rwa [List.append_nil] at htrim
  have hnone : ∀ {words : List Text}, Minds rule words → [] ∉ words →
      rule z now text = .ok none := by
    intro words hminds hwords
    by_contra hminded
    obtain ⟨word, hword, hbegins⟩ := hminds z now text hminded
    rw [BeginsWith, hnil, List.map_nil, List.prefix_nil] at hbegins
    exact hwords (hbegins ▸ hword)
  simp only [rules, List.mem_cons, List.not_mem_nil, or_false] at hrule
  rcases hrule with rfl | rfl | rfl
  · exact hnone minds_readRelative (by decide)
  · exact hnone minds_readAbsolute (by decide)
  · exact hnone minds_readTime (by decide)

/-- No word of one list is a beginning of a word of the other. -/
def Apart (words others : List Text) : Prop :=
  ∀ word ∈ words, ∀ other ∈ others, ¬ word <+: other ∧ ¬ other <+: word

instance (words others : List Text) : Decidable (Apart words others) :=
  inferInstanceAs <| Decidable <|
    ∀ word ∈ words, ∀ other ∈ others, ¬ word <+: other ∧ ¬ other <+: word

theorem Apart.symm {words others : List Text} (h : Apart words others) : Apart others words :=
  fun other hother word hword => (h word hword other hother).symm

theorem apart_relative_absolute : Apart relativeWords absoluteWords := by decide

theorem apart_relative_time : Apart relativeWords timeWords := by decide

theorem apart_absolute_time : Apart absoluteWords timeWords := by decide

/-- A rule does nothing with a text that begins with a word apart from all those that it minds. -/
theorem Minds.none_of_begins {rule : Rule} {words others : List Text} (h : Minds rule others)
    (hapart : Apart words others) {word text : Text} (hword : word ∈ words)
    (hbegins : BeginsWith word text) (z : Zone) (now : LocalTime) :
    rule z now text = .ok none := by
  by_contra hminded
  obtain ⟨other, hother, hbegins'⟩ := h z now text hminded
  exact not_begins_of_apart (hapart word hword other hother) hbegins hbegins'

/-- Of two rules that mind different beginnings one does nothing with a text, whatever the time is
for each. -/
theorem Minds.none_or_none {rule other : Rule} {words others : List Text}
    (h : Minds rule words) (h' : Minds other others) (hapart : Apart words others)
    (z : Zone) (now later : LocalTime) (text : Text) :
    rule z now text = .ok none ∨ other z later text = .ok none := by
  by_cases hnone : rule z now text = .ok none
  · exact Or.inl hnone
  · obtain ⟨word, hword, hbegins⟩ := h z now text hnone
    exact Or.inr (h'.none_of_begins hapart hword hbegins z later)

/-- Only one rule minds a text, even as time goes by. -/
theorem eq_of_minded {rule other : Rule} (hrule : rule ∈ rules) (hother : other ∈ rules)
    {z : Zone} {now later : LocalTime} {text : Text} (h : rule z now text ≠ .ok none)
    (h' : other z later text ≠ .ok none) : rule = other := by
  have hapart : ∀ {words others : List Text}, Minds rule words → Minds other others →
      Apart words others → False := by
    intro words others hminds hminds' hwords
    exact (hminds.none_or_none hminds' hwords z now later text).elim h h'
  simp only [rules, List.mem_cons, List.not_mem_nil, or_false] at hrule hother
  rcases hrule with rfl | rfl | rfl <;> rcases hother with rfl | rfl | rfl
  · rfl
  · exact (hapart minds_readRelative minds_readAbsolute apart_relative_absolute).elim
  · exact (hapart minds_readRelative minds_readTime apart_relative_time).elim
  · exact (hapart minds_readAbsolute minds_readRelative apart_relative_absolute.symm).elim
  · rfl
  · exact (hapart minds_readAbsolute minds_readTime apart_absolute_time).elim
  · exact (hapart minds_readTime minds_readRelative apart_relative_time.symm).elim
  · exact (hapart minds_readTime minds_readAbsolute apart_absolute_time.symm).elim
  · rfl

section FirstRule

variable {z : Zone} {now : LocalTime} {text : Text}

theorem firstRule_of_none {rule : Rule} {more : List Rule} (h : rule z now text = .ok none) :
    firstRule (rule :: more) z now text = firstRule more z now text := by
  unfold firstRule
  rw [h]
  cases more <;> rfl

theorem firstRule_of_minded {rule : Rule} {more : List Rule} (h : rule z now text ≠ .ok none) :
    firstRule (rule :: more) z now text = rule z now text := by
  unfold firstRule
  cases hread : rule z now text with
  | error cause => rfl
  | ok found =>
      cases found with
      | none => exact absurd hread h
      | some second => rfl

theorem firstRule_of_all_none {order : List Rule}
    (h : ∀ rule ∈ order, rule z now text = .ok none) : firstRule order z now text = .ok none := by
  induction order with
  | nil => rfl
  | cons rule more ih =>
      rw [firstRule_of_none (h rule List.mem_cons_self)]
      exact ih fun other hother => h other (List.mem_cons_of_mem _ hother)

/-- The rule that minds a text decides, wherever it stands among the others. -/
theorem firstRule_of_mem {order : List Rule} (horder : ∀ rule ∈ order, rule ∈ rules) {rule : Rule}
    (hmem : rule ∈ order) (h : rule z now text ≠ .ok none) :
    firstRule order z now text = rule z now text := by
  induction order with
  | nil => cases hmem
  | cons first more ih =>
      by_cases hfirst : first z now text = .ok none
      · rw [firstRule_of_none hfirst]
        have hmore : rule ∈ more := by
          rcases List.mem_cons.mp hmem with rfl | hmore
          · exact absurd hfirst h
          · exact hmore
        exact ih (fun other hother => horder other (List.mem_cons_of_mem _ hother)) hmore
      · rw [firstRule_of_minded hfirst,
          eq_of_minded (horder first List.mem_cons_self) (horder rule hmem) hfirst h]

/-- An answer comes from one of the rules. -/
theorem exists_rule_of_firstRule {order : List Rule} (h : firstRule order z now text ≠ .ok none) :
    ∃ rule ∈ order, rule z now text ≠ .ok none ∧
      firstRule order z now text = rule z now text := by
  induction order with
  | nil => exact absurd rfl h
  | cons first more ih =>
      by_cases hfirst : first z now text = .ok none
      · rw [firstRule_of_none hfirst] at h ⊢
        obtain ⟨rule, hmem, hrule⟩ := ih h
        exact ⟨rule, List.mem_cons_of_mem _ hmem, hrule⟩
      · exact ⟨first, List.mem_cons_self, hfirst, firstRule_of_minded hfirst⟩

/-- A second is named if one of the rules names it. -/
theorem firstRule_eq_some_iff {second : Int} :
    firstRule rules z now text = .ok (some second) ↔
      ∃ rule ∈ rules, rule z now text = .ok (some second) := by
  constructor
  · intro h
    obtain ⟨rule, hmem, _, heq⟩ := exists_rule_of_firstRule (by rw [h]; exact nofun)
    exact ⟨rule, hmem, heq.symm.trans h⟩
  · rintro ⟨rule, hmem, h⟩
    rw [firstRule_of_mem (fun _ => id) hmem (by rw [h]; exact nofun), h]

/-- A text that begins as a day or a time counted from now means that, or nothing. -/
theorem firstRule_of_relative {word : Text} (hword : word ∈ relativeWords)
    (hbegins : BeginsWith word text) : firstRule rules z now text = readRelative z now text := by
  have habsolute := minds_readAbsolute.none_of_begins apart_relative_absolute hword hbegins z now
  have htime := minds_readTime.none_of_begins apart_relative_time hword hbegins z now
  by_cases hnone : readRelative z now text = .ok none
  · rw [rules, firstRule_of_none hnone, firstRule_of_none habsolute, firstRule_of_none htime,
      hnone]
    rfl
  · exact firstRule_of_minded hnone

/-- A text that begins with a digit means a time of day, or nothing. -/
theorem firstRule_of_numeral {digits : Text} (hdigits : IsNumeral digits) (rest : Text) :
    firstRule rules z now (digits ++ rest) = readTime z now (digits ++ rest) := by
  obtain ⟨c, more, rfl⟩ := List.exists_cons_of_ne_nil hdigits.ne_nil
  have hdigit := hdigits.isPlainDigit c List.mem_cons_self
  have hstay : trimStart (c :: more ++ rest) = c :: (more ++ rest) :=
    List.dropWhile_cons_of_neg (by simp [not_isBlank_of_isPlainDigit hdigit])
  obtain ⟨word, hword, hbegins⟩ := beginsWith_digit hstay hdigit
  have hrelative :=
    minds_readRelative.none_of_begins apart_relative_time.symm hword hbegins z now
  have habsolute :=
    minds_readAbsolute.none_of_begins apart_absolute_time.symm hword hbegins z now
  rw [rules, firstRule_of_none hrelative, firstRule_of_none habsolute]
  by_cases hnone : readTime z now (c :: more ++ rest) = .ok none
  · rw [firstRule_of_none hnone, hnone]
    rfl
  · exact firstRule_of_minded hnone

end FirstRule

/-- A text means what the first rule to recognize it says, and if it is left unread because it is
blank, there is none. -/
theorem resolve_eq_firstRule {clock : WallClock} {anchor : Anchor} {now : LocalTime}
    (hnow : clock.resolve anchor = .ok now) (text : Text) :
    resolve clock anchor (some text) = firstRule rules clock.zone now text := by
  unfold resolve
  by_cases hblank : isBlankText text = true
  · rw [show usable? (some text) = none from if_pos hblank]
    exact (firstRule_of_all_none fun rule hrule => rule_of_blank hrule hblank _ _).symm
  · rw [show usable? (some text) = some text from if_neg hblank, hnow]
    rfl

theorem resolveTime_eq_readTime {clock : WallClock} {anchor : Anchor} {now : LocalTime}
    (hnow : clock.resolve anchor = .ok now) (text : Text) :
    resolveTime clock anchor (some text) = readTime clock.zone now text := by
  have htime : readTime ∈ rules := by simp [rules]
  unfold resolveTime
  by_cases hblank : isBlankText text = true
  · rw [show usable? (some text) = none from if_pos hblank, rule_of_blank htime hblank]
    rfl
  · rw [show usable? (some text) = some text from if_neg hblank, hnow]
    rfl

/-- The rules exclude one another. Whatever the text and the time, of any two of them one says that
the text is not of its kind, so at most one names a second or fails; and the first that recognizes
the text is the same in whatever order they are tried. -/
theorem rules_exclusive (z : Zone) (now : LocalTime) (text : Text) :
    (rules.Pairwise fun rule other => rule z now text = .ok none ∨ other z now text = .ok none) ∧
      ∀ order : List Rule, order.Perm rules →
        firstRule order z now text = firstRule rules z now text := by
  constructor
  · have hrelative := minds_readRelative.none_or_none minds_readAbsolute apart_relative_absolute z
      now now text
    have hrelative' := minds_readRelative.none_or_none minds_readTime apart_relative_time z now now
      text
    have habsolute := minds_readAbsolute.none_or_none minds_readTime apart_absolute_time z now now
      text
    simp [rules, hrelative, hrelative', habsolute]
  · intro order hperm
    by_cases hnone : firstRule rules z now text = .ok none
    · rw [hnone]
      apply firstRule_of_all_none
      intro rule hrule
      by_contra hminded
      have hmem := hperm.mem_iff.mp hrule
      rw [firstRule_of_mem (fun _ => id) hmem hminded] at hnone
      exact hminded hnone
    · obtain ⟨rule, hmem, hminded, heq⟩ := exists_rule_of_firstRule hnone
      rw [heq]
      exact firstRule_of_mem (fun _ => hperm.mem_iff.mp) (hperm.mem_iff.mpr hmem) hminded

/-- A weekday behind "next" is a day counted from now, though the rule for weekdays is tried
first. -/
theorem rules_exclusive_next_friday :
    [readTime, readAbsolute, readRelative].Perm rules ∧
      firstRule [readTime, readAbsolute, readRelative] .utc
        (.on ⟨2026, 10, 19, by decide⟩ ⟨10, 30, 0, by decide⟩) " Next Fri".toList =
        .ok (some 1792746000) := by
  have hperm : [readTime, readAbsolute, readRelative].Perm rules :=
    List.reverse_perm [readRelative, readAbsolute, readTime]
  refine ⟨hperm, ?_⟩
  rw [(rules_exclusive _ _ _).2 _ hperm]
  decide +kernel

end Agenda.Phrase
