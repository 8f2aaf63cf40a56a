import Agenda.Phrase.Cursor
import Agenda.Proofs.Phrase.Alike
import Agenda.Proofs.Text.Spelling
import Mathlib

/-!
Grammars as relations between a text, a value that its start writes, and the rest behind that start.
A scanner recognizes a grammar if it reads exactly these values and leaves exactly these rests. Then
the grammar is unambiguous, and a cursor moves past what it writes and stays where it writes
nothing.
-/

namespace Agenda.Phrase

open Text

abbrev Grammar (α : Type) := Text → α → Text → Prop

/-- No run of digits in the text is longer than a numeral may be. -/
def NumeralsFit (t : Text) : Prop :=
  ∀ run, run <:+: t → (∀ c ∈ run, isPlainDigit c = true) → run.length ≤ maxDigits

theorem numeralsFit_of_length {t : Text} (h : t.length ≤ maxDigits) : NumeralsFit t :=
  fun _ hrun _ => hrun.length_le.trans h

theorem NumeralsFit.of_suffix {s t : Text} (h : NumeralsFit t) (hs : s <:+ t) : NumeralsFit s :=
  fun run hrun => h run (hrun.trans hs.isInfix)

/-- The text starts with a run of a class that the rest does not continue. -/
def IsRun (p : Char → Bool) (s run rest : Text) : Prop :=
  s = run ++ rest ∧ (∀ c ∈ run, p c = true) ∧ ∀ c ∈ rest.head?, p c = false

theorem isRun_iff {p : Char → Bool} {s run rest : Text} :
    IsRun p s run rest ↔ run = s.takeWhile p ∧ rest = s.dropWhile p := by
  constructor
  · rintro ⟨rfl, hrun, hrest⟩
    rw [Scanner.takeWhile_append hrest, Scanner.dropWhile_append hrest,
      List.takeWhile_eq_self_iff.mpr hrun, List.dropWhile_eq_nil_iff.mpr hrun]
    exact ⟨rfl, rfl⟩
  · rintro ⟨rfl, rfl⟩
    refine ⟨(List.takeWhile_append_dropWhile ..).symm, fun c hc => List.mem_takeWhile_imp hc, ?_⟩
    intro c hc
    have hstop := List.head?_dropWhile_not p s
    rw [Option.mem_def.mp hc] at hstop
    simpa using hstop

theorem IsRun.unique {p : Char → Bool} {s run rest run' rest' : Text} (h : IsRun p s run rest)
    (h' : IsRun p s run' rest') : run = run' ∧ rest = rest' := by
  rw [isRun_iff] at h h'
  exact ⟨h.1.trans h'.1.symm, h.2.trans h'.2.symm⟩

theorem IsRun.suffix {p : Char → Bool} {s run rest : Text} (h : IsRun p s run rest) : rest <:+ s :=
  ⟨run, h.1.symm⟩

/-- All blanks in front are skipped. -/
def Skips (s rest : Text) : Prop := ∃ blanks, IsRun isBlank s blanks rest

/-- All digits in front write a number. -/
def Digits (s : Text) (n : Nat) (rest : Text) : Prop :=
  ∃ digits, digits ≠ [] ∧ IsRun isPlainDigit s digits rest ∧ n = numberOfPlain digits

/-- The text starts with the word, with any of the letters `A` to `Z` capital. -/
def Spells (word s rest : Text) : Prop :=
  ∃ spelled, s = spelled ++ rest ∧ spelled.map Char.toLower = word

/-- The text starts with the word, in any case, and no letter follows. -/
def IsKeyword (word s rest : Text) : Prop :=
  Spells word s rest ∧ ∀ c ∈ rest.head?, isLetter c = false

/-- The text may start with a mark, which is passed then. -/
def MayHave (mark : Char) (s rest : Text) : Prop :=
  s = mark :: rest ∨ s.head? ≠ some mark ∧ rest = s

theorem Spells.suffix {word s rest : Text} (h : Spells word s rest) : rest <:+ s := by
  obtain ⟨spelled, rfl, _⟩ := h
  exact List.suffix_append spelled rest

/-- A mark is spelled in one way. -/
theorem spells_mark_iff {mark : Char} (hmark : mark ∈ marks) {s rest : Text} :
    Spells [mark] s rest ↔ s = mark :: rest := by
  constructor
  · rintro ⟨spelled, rfl, hspelled⟩
    obtain ⟨c, rfl, hc⟩ := List.map_eq_singleton_iff.mp hspelled
    rw [(toLower_eq_iff_of_mark hmark).mp hc]
    rfl
  · rintro rfl
    exact ⟨[mark], rfl, by rw [List.map_singleton, (toLower_eq_iff_of_mark hmark).mpr rfl]⟩

theorem Skips.suffix {s rest : Text} (h : Skips s rest) : rest <:+ s := by
  obtain ⟨_, hrun⟩ := h
  exact hrun.suffix

theorem MayHave.suffix {mark : Char} {s rest : Text} (h : MayHave mark s rest) : rest <:+ s := by
  rcases h with rfl | ⟨_, rfl⟩
  · exact List.suffix_cons mark rest
  · exact List.suffix_refl rest

theorem Skips.unique {s rest rest' : Text} (h : Skips s rest) (h' : Skips s rest') :
    rest = rest' := by
  obtain ⟨_, hrun⟩ := h
  obtain ⟨_, hrun'⟩ := h'
  exact (hrun.unique hrun').2

section Letters

variable {c : Char} {s rest : Text} (hc : isLetter c = true)
include hc

/-- No blank is skipped in front of a letter. -/
theorem Skips.eq_of_letter (h : Skips (c :: s) rest) : rest = c :: s := by
  obtain ⟨blanks, hrun⟩ := h
  have hblank : isBlank c = false := by
    rw [← Bool.not_eq_true]
    intro hblank
    rw [(isBreak_of_isBlank hblank).not_letter] at hc
    cases hc
  rw [(isRun_iff.mp hrun).2, List.dropWhile_cons_of_neg (by simp [hblank])]

theorem MayHave.eq_of_letter {mark : Char} (hmark : mark ∈ marks)
    (h : MayHave mark (c :: s) rest) : rest = c :: s := by
  rcases h with heq | ⟨_, heq⟩
  · have hnone : (marks.all fun d => !isLetter d) = true := by decide
    cases heq
    simpa [hc] using List.all_eq_true.mp hnone c hmark
  · exact heq

theorem not_digits_of_letter {n : Nat} : ¬ Digits (c :: s) n rest := by
  rintro ⟨digits, hsome, hrun, _⟩
  have hdigit : isPlainDigit c = false := by
    have hnone : (plainDigits.all fun d => !isLetter d) = true := by decide
    rw [← Bool.not_eq_true]
    intro hdigit
    simpa [hc] using List.all_eq_true.mp hnone c (mem_plainDigits hdigit)
  rw [(isRun_iff.mp hrun).1, List.takeWhile_cons_of_neg (by simp [hdigit])] at hsome
  exact hsome rfl

end Letters

/-- A keyword of letters is the run of letters in front. -/
theorem IsKeyword.isRun {word s rest : Text} (hword : ∀ c ∈ word, isLetter c = true)
    (h : IsKeyword word s rest) :
    ∃ spelled, IsRun isLetter s spelled rest ∧ spelled.map Char.toLower = word := by
  obtain ⟨⟨spelled, rfl, rfl⟩, hbreak⟩ := h
  refine ⟨spelled, ⟨rfl, fun c hc => ?_, hbreak⟩, rfl⟩
  rw [← isLetter_toLower]
  exact hword _ (List.mem_map_of_mem hc)

theorem IsKeyword.unique {word word' s rest rest' : Text}
    (hword : ∀ c ∈ word, isLetter c = true) (hword' : ∀ c ∈ word', isLetter c = true)
    (h : IsKeyword word s rest) (h' : IsKeyword word' s rest') : word = word' ∧ rest = rest' := by
  obtain ⟨spelled, hrun, rfl⟩ := h.isRun hword
  obtain ⟨spelled', hrun', rfl⟩ := h'.isRun hword'
  obtain ⟨rfl, rfl⟩ := hrun.unique hrun'
  exact ⟨rfl, rfl⟩

namespace Scanner

variable {α β : Type}

/-- Where the numerals of the text fit, the scanner reads what the grammar writes, with the rest
behind it, and does not fail. -/
structure Recognizes (p : Scanner Text α) (g : Grammar α) : Prop where
  accept_iff : ∀ {s a rest}, NumeralsFit s → (p s = .accept a rest ↔ g s a rest)
  never_fails : ∀ {s cause rest}, NumeralsFit s → p s ≠ .fault cause rest
  suffix : ∀ {s a rest}, g s a rest → rest <:+ s

namespace Recognizes

variable {p q : Scanner Text α} {g h : Grammar α}

theorem congr (hp : Recognizes p g) (heq : ∀ s a rest, g s a rest ↔ h s a rest) :
    Recognizes p h := by
  have hgrammar : g = h := funext fun s => funext fun a => funext fun rest => propext (heq s a rest)
  exact hgrammar ▸ hp

theorem reject_iff (hp : Recognizes p g) {s : Text} (hs : NumeralsFit s) :
    p s = .reject ↔ ¬ ∃ a rest, g s a rest := by
  cases hread : p s with
  | accept a rest => exact iff_of_false nofun (not_not.mpr ⟨a, rest, (hp.accept_iff hs).mp hread⟩)
  | reject =>
      refine iff_of_true rfl ?_
      rintro ⟨a, rest, hg⟩
      cases hread.symm.trans ((hp.accept_iff hs).mpr hg)
  | fault cause rest => exact absurd hread (hp.never_fails hs)

theorem pure (a : α) :
    Recognizes (Pure.pure a : Scanner Text α) fun s b rest => b = a ∧ rest = s := by
  refine ⟨?_, fun _ => nofun, ?_⟩
  · intro s b rest _
    change Scanned.accept a s = .accept b rest ↔ _
    rw [Scanned.accept.injEq, eq_comm, eq_comm (a := s)]
  · rintro s b rest ⟨_, rfl⟩
    exact List.suffix_refl rest

theorem fail : Recognizes (Scanner.fail : Scanner Text α) fun _ _ _ => False :=
  ⟨fun {_ _ _} _ => iff_of_false nofun id, fun _ => nofun, False.elim⟩

theorem guard (condition : Bool) : Recognizes (guard condition : Scanner Text Unit)
    fun s _ rest => condition = true ∧ rest = s := by
  cases condition with
  | true => exact (Recognizes.pure ()).congr (by simp)
  | false => exact Recognizes.fail.congr (by simp)

theorem bind {f : α → Scanner Text β} {k : α → Grammar β} (hp : Recognizes p g)
    (hf : ∀ a, Recognizes (f a) (k a)) :
    Recognizes (p >>= f) fun s b rest => ∃ a middle, g s a middle ∧ k a middle b rest := by
  refine ⟨?_, ?_, ?_⟩
  · intro s b rest hs
    constructor
    · intro hread
      obtain ⟨a, middle, hfirst, hsecond⟩ := accept_of_bind hread
      have hg := (hp.accept_iff hs).mp hfirst
      have hmiddle := hs.of_suffix (hp.suffix hg)
      exact ⟨a, middle, hg, ((hf a).accept_iff hmiddle).mp hsecond⟩
    · rintro ⟨a, middle, hg, hk⟩
      have hmiddle := hs.of_suffix (hp.suffix hg)
      rw [bind_of_accept ((hp.accept_iff hs).mpr hg)]
      exact ((hf a).accept_iff hmiddle).mpr hk
  · intro s cause rest hs hfault
    cases hread : p s with
    | accept a middle =>
        rw [bind_of_accept hread] at hfault
        have hmiddle := hs.of_suffix (hp.suffix ((hp.accept_iff hs).mp hread))
        exact (hf a).never_fails hmiddle hfault
    | reject =>
        rw [bind_of_reject hread] at hfault
        cases hfault
    | fault cause middle => exact hp.never_fails hs hread
  · rintro s b rest ⟨a, middle, hg, hk⟩
    exact ((hf a).suffix hk).trans (hp.suffix hg)

theorem map (f : α → β) (hp : Recognizes p g) :
    Recognizes (f <$> p) fun s b rest => ∃ a, g s a rest ∧ b = f a := by
  refine (hp.bind fun a => Recognizes.pure (f a)).congr ?_
  intro s b rest
  constructor
  · rintro ⟨a, _, hg, rfl, rfl⟩
    exact ⟨a, hg, rfl⟩
  · rintro ⟨a, hg, rfl⟩
    exact ⟨a, rest, hg, rfl, rfl⟩

/-- Of two scanners the second counts only where the first grammar writes nothing. -/
theorem orElse (hp : Recognizes p g) (hq : Recognizes q h) :
    Recognizes (p.orElse q) fun s a rest =>
      g s a rest ∨ (¬ ∃ b rest', g s b rest') ∧ h s a rest := by
  refine ⟨?_, ?_, ?_⟩
  · intro s a rest hs
    rw [← hp.accept_iff hs, ← hq.accept_iff hs, ← hp.reject_iff hs]
    constructor
    · exact accept_of_orElse
    · rintro (hread | ⟨hreject, hread⟩)
      · exact orElse_of_accept hread
      · rwa [orElse_of_reject hreject]
  · intro s cause rest hs hfault
    by_cases hread : p s = .reject
    · rw [orElse_of_reject hread] at hfault
      exact hq.never_fails hs hfault
    · rw [orElse_of_not_reject hread] at hfault
      exact hp.never_fails hs hfault
  · intro s a rest hg
    exact hg.elim hp.suffix fun hh => hq.suffix hh.2

/-- The order of two scanners does not count if their grammars write nothing in common. -/
theorem orElse_of_apart (hp : Recognizes p g) (hq : Recognizes q h)
    (hapart : ∀ {s a rest b rest'}, g s a rest → ¬ h s b rest') :
    Recognizes (p.orElse q) fun s a rest => g s a rest ∨ h s a rest := by
  refine (hp.orElse hq).congr fun s a rest => or_congr_right (and_iff_right_of_imp ?_)
  rintro hh ⟨b, rest', hg⟩
  exact hapart hg hh

theorem optional (hp : Recognizes p g) :
    Recognizes (Scanner.optional p) fun s found rest =>
      (∃ a, g s a rest ∧ found = some a) ∨
        (¬ ∃ a rest', g s a rest') ∧ found = none ∧ rest = s := by
  refine ((hp.map some).orElse (Recognizes.pure none)).congr ?_
  intro s found rest
  have hsome : (∃ b rest', ∃ a, g s a rest' ∧ b = some a) ↔ ∃ a rest', g s a rest' := by
    constructor
    · rintro ⟨_, rest', a, hg, _⟩
      exact ⟨a, rest', hg⟩
    · rintro ⟨a, rest', hg⟩
      exact ⟨some a, rest', a, hg, rfl⟩
  rw [hsome]

end Recognizes

theorem recognizes_blanks :
    Recognizes (blanks : Scanner Text Unit) fun s _ rest => Skips s rest := by
  refine ⟨?_, ?_, ?_⟩
  · intro s _ rest _
    rw [blanks_text, Scanned.accept.injEq, and_iff_right rfl]
    constructor
    · rintro rfl
      exact ⟨s.takeWhile isBlank, isRun_iff.mpr ⟨rfl, rfl⟩⟩
    · rintro ⟨blanks, hrun⟩
      exact (isRun_iff.mp hrun).2.symm
  · intro s cause rest _ hfault
    rw [blanks_text] at hfault
    cases hfault
  · exact Skips.suffix

theorem recognizes_numeral : Recognizes (numeral : Scanner Text Nat) Digits := by
  have hfits : ∀ {s : Text}, NumeralsFit s → (s.takeWhile isPlainDigit).length ≤ maxDigits :=
    fun hs => hs _ (List.takeWhile_prefix _).isInfix fun c hc => List.mem_takeWhile_imp hc
  refine ⟨?_, ?_, ?_⟩
  · intro s n rest hs
    have hlength := hfits hs
    rw [numeral_text]
    split_ifs with hnil
    · refine iff_of_false nofun ?_
      rintro ⟨digits, hsome, hrun, _⟩
      exact hsome ((isRun_iff.mp hrun).1.trans hnil)
    · rw [numberOf, if_neg hnil, if_neg (by omega), Scanned.accept.injEq]
      constructor
      · rintro ⟨rfl, rfl⟩
        exact ⟨_, hnil, isRun_iff.mpr ⟨rfl, rfl⟩, rfl⟩
      · rintro ⟨digits, _, hrun, rfl⟩
        obtain ⟨rfl, rfl⟩ := isRun_iff.mp hrun
        exact ⟨rfl, rfl⟩
  · intro s cause rest hs hfault
    have hlength := hfits hs
    rw [numeral_text] at hfault
    split_ifs at hfault with hnil
    rw [numberOf, if_neg hnil, if_neg (by omega)] at hfault
    cases hfault
  · rintro s n rest ⟨digits, _, hrun, _⟩
    exact hrun.suffix

theorem recognizes_word : Recognizes (word : Scanner Text Text) fun s w rest =>
    ∃ letters, IsRun isLetter s letters rest ∧ w = lower letters := by
  refine ⟨?_, ?_, ?_⟩
  · intro s w rest _
    rw [word_text, Scanned.accept.injEq]
    constructor
    · rintro ⟨rfl, rfl⟩
      exact ⟨_, isRun_iff.mpr ⟨rfl, rfl⟩, rfl⟩
    · rintro ⟨letters, hrun, rfl⟩
      obtain ⟨rfl, rfl⟩ := isRun_iff.mp hrun
      exact ⟨rfl, rfl⟩
  · intro s cause rest _ hfault
    rw [word_text] at hfault
    cases hfault
  · rintro s w rest ⟨letters, hrun, _⟩
    exact hrun.suffix

theorem recognizes_literal {expected : Text} (hsmall : IsSmall expected) :
    Recognizes (literal expected : Scanner Text Unit) fun s _ rest => Spells expected s rest := by
  refine ⟨?_, ?_, ?_⟩
  · intro s _ rest _
    simp only [literal_text, hsmall.1, lower_eq_iff_of_small hsmall]
    split_ifs with hspelled
    · rw [Scanned.accept.injEq, and_iff_right rfl]
      constructor
      · rintro rfl
        exact ⟨_, (List.take_append_drop _ s).symm, hspelled⟩
      · rintro ⟨spelled, rfl, rfl⟩
        rw [List.length_map, List.drop_left]
    · refine iff_of_false nofun ?_
      rintro ⟨spelled, rfl, rfl⟩
      rw [List.length_map, List.take_left] at hspelled
      exact hspelled rfl
  · intro s cause rest _ hfault
    rw [literal_text] at hfault
    split_ifs at hfault
  · intro s _ rest hspells
    exact hspells.suffix

/-- A mark may be left out, and is where another code point stands. -/
theorem recognizes_mark {mark : Char} (hmark : mark ∈ marks) :
    Recognizes (Scanner.optional (literal [mark]) : Scanner Text (Option Unit))
      fun s found rest => s = mark :: rest ∧ found = some () ∨
        s.head? ≠ some mark ∧ found = none ∧ rest = s := by
  have hsmall : IsSmall [mark] := by
    simp only [marks, List.mem_cons, List.not_mem_nil, or_false] at hmark
    rcases hmark with rfl | rfl | rfl <;> decide
  refine (recognizes_literal hsmall).optional.congr ?_
  intro s found rest
  have hhead : (∃ (_ : Unit) (rest' : Text), s = mark :: rest') ↔ s.head? = some mark := by
    cases s <;> simp
  simp only [spells_mark_iff hmark, hhead, Unique.exists_iff]

theorem recognizes_keyword (expected : Text) (hsmall : IsSmall expected) :
    Recognizes (keyword expected : Scanner Text Unit)
      fun s _ rest => IsKeyword expected s rest := by
  have hahead : Recognizes (do Scanner.guard (!startsWithLetter (← ahead)) : Scanner Text Unit)
      fun s _ rest => (∀ c ∈ rest.head?, isLetter c = false) ∧ rest = s := by
    have hguard : ∀ s : Text, (!startsWithLetter s) = true ↔ ∀ c ∈ s.head?, isLetter c = false := by
      intro s
      cases s <;> simp [startsWithLetter]
    refine ⟨?_, ?_, ?_⟩
    · intro s _ rest hs
      change Scanner.guard (!startsWithLetter s) s = _ ↔ _
      rw [(Recognizes.guard _).accept_iff hs, hguard]
      constructor
      · rintro ⟨hbreak, rfl⟩
        exact ⟨hbreak, rfl⟩
      · rintro ⟨hbreak, rfl⟩
        exact ⟨hbreak, rfl⟩
    · intro s cause rest hs
      exact (Recognizes.guard _).never_fails hs
    · rintro s _ rest ⟨_, rfl⟩
      exact List.suffix_refl rest
  refine ((recognizes_literal hsmall).bind fun _ => hahead).congr ?_
  intro s _ rest
  constructor
  · rintro ⟨_, _, hspells, hbreak, rfl⟩
    exact ⟨hspells, hbreak⟩
  · rintro ⟨hspells, hbreak⟩
    exact ⟨(), rest, hspells, hbreak, rfl⟩

end Scanner

namespace Cursor

/-- The position lies within the text, or at its end. -/
def IsInside (c : Cursor) : Prop := 0 ≤ c.pos ∧ c.pos ≤ c.text.length

/-- The outcome is the value that the grammar writes at the cursor, with the cursor in front of the
rest behind it; and where the grammar writes nothing there is no value and the cursor stays. -/
def Finds {α : Type} (c : Cursor) (g : Grammar α) (outcome : Except Fault (Option α) × Cursor) :
    Prop :=
  (∀ value next, outcome = (.ok (some value), next) ↔
    ∃ rest, g c.rest value rest ∧ next = { c with pos := c.text.length - rest.length }) ∧
  ((¬ ∃ value rest, g c.rest value rest) → outcome = (.ok none, c))

/-- Where one of two grammars is found that write nothing in common, the first is if the second
writes nothing. -/
theorem Finds.iff_of_or {α : Type} {c : Cursor} {g extra : Grammar α}
    {outcome : Except Fault (Option α) × Cursor}
    (h : c.Finds (fun s a rest => g s a rest ∨ extra s a rest) outcome)
    (hapart : ∀ {a rest b rest'}, g c.rest a rest → ¬ extra c.rest b rest') :
    c.Finds g outcome ↔ ¬ ∃ a rest, extra c.rest a rest := by
  constructor
  · rintro hg ⟨a, rest, hextra⟩
    have hread := (h.1 a _).mpr ⟨rest, Or.inr hextra, rfl⟩
    obtain ⟨_, hwritten, _⟩ := (hg.1 a _).mp hread
    exact hapart hwritten hextra
  · intro hnone
    have hor : ∀ a rest, (g c.rest a rest ∨ extra c.rest a rest) ↔ g c.rest a rest :=
      fun a rest => or_iff_left fun hextra => hnone ⟨a, rest, hextra⟩
    unfold Finds at h ⊢
    simpa only [hor] using h

theorem rest_suffix (c : Cursor) : c.rest <:+ c.text := List.drop_suffix _ _

theorem length_rest {c : Cursor} (hc : c.IsInside) :
    (c.rest.length : Int) = c.text.length - c.pos := by
  obtain ⟨hstart, hend⟩ := hc
  rw [Cursor.rest, inFront, if_neg (by omega), List.length_drop]
  omega

/-- A cursor is moved up to the rest that a grammar leaves. -/
theorem upTo_eq {c : Cursor} (hc : c.IsInside) {rest : Text} (hrest : rest <:+ c.rest) :
    c.upTo rest = { c with pos := c.text.length - rest.length } := by
  have hlength := length_rest hc
  have hle := hrest.length_le
  unfold upTo
  congr 1
  omega

/-- A cursor within a text finds what the scanner recognizes. -/
theorem finds_of_recognizes {α : Type} {p : {σ : Type} → [Tape σ] → Scanner σ α} {g : Grammar α}
    (hp : Scanner.Recognizes (p (σ := Text)) g) {c : Cursor} (hc : c.IsInside)
    (hfit : NumeralsFit c.text) : c.Finds g (c.scan p) := by
  have hrest := hfit.of_suffix c.rest_suffix
  have hscan : c.scan p = c.settle (c.locate (p c.rest)) := by
    rw [scan, if_pos hc.1]
  rw [hscan]
  cases hread : (p c.rest : Scanned Text α) with
  | accept a rest =>
      have hg := (hp.accept_iff hrest).mp hread
      constructor
      · intro value next
        rw [locate, settle, upTo_eq hc (hp.suffix hg), Prod.mk.injEq, Except.ok.injEq,
          Option.some.injEq]
        constructor
        · rintro ⟨rfl, rfl⟩
          exact ⟨rest, hg, rfl⟩
        · rintro ⟨rest', hg', rfl⟩
          have heq := (Scanned.accept.inj (hread.symm.trans ((hp.accept_iff hrest).mpr hg')))
          rw [heq.1, heq.2]
          exact ⟨rfl, rfl⟩
      · intro hnone
        exact absurd ⟨a, rest, hg⟩ hnone
  | reject =>
      have hnone := (hp.reject_iff hrest).mp hread
      refine ⟨fun value next => iff_of_false nofun ?_, fun _ => rfl⟩
      rintro ⟨rest, hg, _⟩
      exact hnone ⟨value, rest, hg⟩
  | fault cause rest => exact absurd hread (hp.never_fails hrest)

end Cursor

end Agenda.Phrase
