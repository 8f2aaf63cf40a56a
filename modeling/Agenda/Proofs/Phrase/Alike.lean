import Agenda.Proofs.Phrase.Ignoring
import Agenda.Proofs.Text.Case
import Mathlib

/-!
Letter case and outer blanks have no part in what a phrase means. The scanners of single tokens
ignore the case of the letters `A` to `Z`, and blanks at the end of a text, which go on with none of
what they read; and every grammar starts behind blanks.
-/

namespace Agenda.Phrase

open Calendar Clock Text

namespace Scanner

private theorem ignores_case_numeral : Ignores (List.map Char.toLower) numeral := by
  intro s
  have hsame : (s.takeWhile isPlainDigit).map Char.toLower = s.takeWhile isPlainDigit := by
    conv_rhs => rw [← List.map_id (s.takeWhile isPlainDigit)]
    exact List.map_congr_left fun c hc => toLower_of_isPlainDigit (List.mem_takeWhile_imp hc)
  rw [numeral_text, numeral_text, takeWhile_map_toLower isPlainDigit_toLower,
    dropWhile_map_toLower isPlainDigit_toLower, hsame]
  split
  · rfl
  · unfold numberOf
    split_ifs <;> rfl

private theorem ignores_case_literal (expected : Text) :
    Ignores (List.map Char.toLower) (literal expected) := by
  intro s
  rw [literal_text, literal_text, ← List.map_take, ← List.map_drop, lower_map_toLower]
  split <;> rfl

private theorem ignores_case_nameIn (names : List Text) :
    Ignores (List.map Char.toLower) (nameIn names) := by
  intro s
  rw [nameIn_text, nameIn_text, takeWhile_map_toLower isLetter_toLower, lower_map_toLower]
  dsimp only
  split
  · split
    · rw [← List.map_drop]
      rfl
    · rfl
  · rfl

end Scanner

/-- No scanner notices the case of the letters `A` to `Z`. -/
theorem isIgnored_toLower : IsIgnored (List.map Char.toLower) := by
  refine ⟨?_, Scanner.ignores_case_numeral, ?_, fun _ => Scanner.ignores_case_literal _, ?_,
    fun _ => Scanner.ignores_case_nameIn _⟩
  · intro s
    rw [Scanner.blanks_text, Scanner.blanks_text, trimStart_map_toLower]
    rfl
  · intro s
    rw [Scanner.word_text, Scanner.word_text, takeWhile_map_toLower isLetter_toLower,
      dropWhile_map_toLower isLetter_toLower, lower_map_toLower]
    rfl
  · intro s
    cases s with
    | nil => rfl
    | cons c rest => exact isLetter_toLower c

/-- Blanks are neither letters nor digits nor marks. -/
theorem isBreak_of_isBlank {c : Char} (h : isBlank c = true) : IsBreak c := by
  refine ⟨not_covers_of_isBlank (by decide +kernel) h, ?_, ?_⟩
  · by_contra hdigit
    rw [Bool.not_eq_false] at hdigit
    rw [not_isBlank_of_isPlainDigit hdigit] at h
    cases h
  · intro hmark
    have hnone : (marks.all fun d => !isBlank d) = true := by decide
    have hblank := List.all_eq_true.mp hnone c hmark
    rw [h] at hblank
    cases hblank

namespace Scanner

/-- A scanner that goes on with no break ignores blanks at the end of the text, if it leaves an end
of what it reads. -/
private theorem ignores_trimEnd {α : Type} {p : Scanner Text α}
    (happend : ∀ tail : Text, (∀ c ∈ tail.head?, IsBreak c) → Ignores (· ++ tail) p)
    (htrimmed : ∀ s, (p (trimEnd s)).mapRest trimEnd = p (trimEnd s)) : Ignores trimEnd p := by
  intro s
  obtain ⟨b, hb, hs, _⟩ := trimEnd_split s
  have hbreak : ∀ c ∈ b.head?, IsBreak c :=
    fun c hc => isBreak_of_isBlank (hb c (List.mem_of_mem_head? hc))
  have hread : p s = (p (trimEnd s)).mapRest (· ++ b) := by
    conv_lhs => rw [hs]
    exact happend b hbreak (trimEnd s)
  rw [hread, Scanned.mapRest_mapRest]
  simp only [trimEnd_append_allBlank hb]
  exact (htrimmed s).symm

private theorem ignores_trimEnd_word : Ignores trimEnd word := by
  refine ignores_trimEnd (fun _ htail => word_append htail) fun s => ?_
  have hrest := trimEnd_of_suffix (List.dropWhile_suffix isLetter (l := trimEnd s))
  rw [word_text, Scanned.mapRest, hrest]

private theorem ignores_trimEnd_numeral : Ignores trimEnd numeral := by
  refine ignores_trimEnd (fun _ htail => numeral_append htail) fun s => ?_
  have hrest := trimEnd_of_suffix (List.dropWhile_suffix isPlainDigit (l := trimEnd s))
  rw [numeral_text]
  unfold numberOf
  split_ifs <;> simp only [Scanned.mapRest, hrest]

private theorem ignores_trimEnd_literal {expected : Text} (ht : IsToken expected) :
    Ignores trimEnd (literal expected) := by
  refine ignores_trimEnd (fun _ htail => literal_append htail ht) fun s => ?_
  have hrest := trimEnd_of_suffix (List.drop_suffix expected.length (trimEnd s))
  rw [literal_text]
  split_ifs <;> simp only [Scanned.mapRest, hrest]

private theorem ignores_trimEnd_nameIn {names : List Text}
    (hnames : ∀ name ∈ names, AllPlain name) : Ignores trimEnd (nameIn names) := by
  refine ignores_trimEnd (fun _ htail => nameIn_append htail hnames) fun s => ?_
  rw [nameIn_text]
  dsimp only
  split
  · split
    · rw [Scanned.mapRest, trimEnd_of_suffix (List.drop_suffix _ _)]
    · rfl
  · rfl

end Scanner

/-- No scanner notices blanks at the end of a text. -/
theorem isIgnored_trimEnd : IsIgnored trimEnd := by
  refine ⟨?_, Scanner.ignores_trimEnd_numeral, Scanner.ignores_trimEnd_word,
    Scanner.ignores_trimEnd_literal, ?_, Scanner.ignores_trimEnd_nameIn⟩
  · intro s
    rw [Scanner.blanks_text, Scanner.blanks_text, trimStart_trimEnd]
    rfl
  · intro s
    obtain ⟨b, hb, hs, _⟩ := trimEnd_split s
    have hbreak : ∀ c ∈ b.head?, IsBreak c :=
      fun c hc => isBreak_of_isBlank (hb c (List.mem_of_mem_head? hc))
    conv_rhs => rw [hs]
    exact (Scanner.startsWithLetter_append hbreak _).symm

section Blanks

variable (z : Zone) (now : LocalTime) (text : Text)

/-- What starts behind blanks does the same from behind them. -/
private theorem bind_blanks_trimStart {α : Type} (f : Unit → Scanner Text α) :
    (Scanner.blanks >>= f) (trimStart text) = (Scanner.blanks >>= f) text := by
  rw [Scanner.bind_of_accept (Scanner.blanks_text (trimStart text)),
    Scanner.bind_of_accept (Scanner.blanks_text text)]
  exact congrArg (f ()) (List.dropWhile_idempotent isBlank text)

theorem readRelative_trimStart :
    readRelative z now (trimStart text) = readRelative z now text := by
  have hscan : relative now.date (trimStart text) = relative now.date text :=
    bind_blanks_trimStart text _
  unfold readRelative
  rw [hscan]

theorem readAbsolute_trimStart :
    readAbsolute z now (trimStart text) = readAbsolute z now text := by
  have hscan : monthDay (trimStart text) = monthDay text := bind_blanks_trimStart text _
  have htrim : trimStart (trimStart text) = trimStart text :=
    List.dropWhile_idempotent isBlank text
  unfold readAbsolute
  rw [hscan, htrim]

theorem readTime_trimStart : readTime z now (trimStart text) = readTime z now text := by
  have hscan : timeOfDay (trimStart text) = timeOfDay text := bind_blanks_trimStart text _
  unfold readTime
  rw [hscan]

/-- A rule means the same without outer blanks and with small letters. -/
theorem rule_small {rule : Rule} (hrule : rule ∈ rules) :
    rule z now ((trim text).map Char.toLower) = rule z now text := by
  simp only [rules, List.mem_cons, List.not_mem_nil, or_false] at hrule
  rcases hrule with rfl | rfl | rfl
  · rw [isIgnored_toLower.readRelative, trim, isIgnored_trimEnd.readRelative,
      readRelative_trimStart]
  · rw [isIgnored_toLower.readAbsolute, trim, isIgnored_trimEnd.readAbsolute,
      readAbsolute_trimStart]
  · rw [isIgnored_toLower.readTime, trim, isIgnored_trimEnd.readTime, readTime_trimStart]

end Blanks

/-- A rule means the same for alike texts. -/
theorem rule_of_alike {rule : Rule} (hrule : rule ∈ rules) {t t' : Text} (h : Alike t t') (z : Zone)
    (now : LocalTime) : rule z now t = rule z now t' := by
  rw [← rule_small z now t hrule, (alike_iff t t').mp h, rule_small z now t' hrule]

theorem firstRule_of_alike {t t' : Text} (h : Alike t t') (z : Zone) (now : LocalTime) :
    firstRule rules z now t = firstRule rules z now t' := by
  have hall : ∀ rule ∈ rules, rule z now t = rule z now t' :=
    fun rule hrule => rule_of_alike hrule h z now
  generalize rules = sequence at hall
  induction sequence with
  | nil => rfl
  | cons rule more ih =>
      obtain ⟨hrule, hmore⟩ := List.forall_mem_cons.mp hall
      rw [firstRule, firstRule, hrule, ih hmore]

/-- Of alike texts both are read, or neither is. -/
theorem usable?_of_alike {t t' : Text} (h : Alike t t') :
    (usable? (some t) = none ∧ usable? (some t') = none) ∨
      (usable? (some t) = some t ∧ usable? (some t') = some t') := by
  have hblank : ∀ t : Text, isBlankText t = true ↔ (trim t).map Char.toLower = [] := by
    intro t
    rw [isBlankText_iff, ← trim_eq_nil_iff, List.map_eq_nil_iff]
  have hsame : isBlankText t = true ↔ isBlankText t' = true := by
    rw [hblank, hblank, (alike_iff t t').mp h]
  by_cases ht : isBlankText t = true
  · exact Or.inl ⟨if_pos ht, if_pos (hsame.mp ht)⟩
  · exact Or.inr ⟨if_neg ht, if_neg fun ht' => ht (hsame.mpr ht')⟩

theorem resolve_of_alike {t t' : Text} (h : Alike t t') (clock : WallClock) (anchor : Anchor) :
    resolve clock anchor (some t) = resolve clock anchor (some t') := by
  unfold resolve
  rcases usable?_of_alike h with ⟨ht, ht'⟩ | ⟨ht, ht'⟩
  · rw [ht, ht']
  · rw [ht, ht']
    simp only [firstRule_of_alike h]

theorem resolveTime_of_alike {t t' : Text} (h : Alike t t') (clock : WallClock)
    (anchor : Anchor) :
    resolveTime clock anchor (some t) = resolveTime clock anchor (some t') := by
  have htime : readTime ∈ rules := by simp [rules]
  unfold resolveTime
  rcases usable?_of_alike h with ⟨ht, ht'⟩ | ⟨ht, ht'⟩
  · rw [ht, ht']
  · rw [ht, ht']
    simp only [rule_of_alike htime h]

end Agenda.Phrase
