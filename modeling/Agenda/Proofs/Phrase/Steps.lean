import Agenda.Proofs.Phrase.Cursor
import Agenda.Proofs.Phrase.DaySyntax
import Agenda.Proofs.Phrase.TimeSyntax
import Mathlib

/-!
Steps of a cursor, one after another. In a text whose numerals are short enough to be read no step
fails, leads out of the text or goes back. One that finds nothing leaves the cursor where it is, and
one that finds what it looks for goes on, but that blanks and words may be of no length.
-/

namespace Agenda.Phrase

open Calendar Text Scanner

/-- A text to look for: some plain code points. -/
structure Literal where
  text : Text
  ne_nil : text ≠ []
  plain : AllPlain text

/-- A step of a cursor. -/
inductive Step
  | blanks
  | literal (expected : Literal)
  | keyword (expected : Literal)
  | word
  | numeral
  | weekday
  | month
  | timeOfDay
  | relative (today : Date)
  | monthDay

namespace Step

/-- Whether a scan finds a value. -/
def found {α : Type} (outcome : Except Fault (Option α) × Cursor) : Except Fault Bool × Cursor :=
  (outcome.1.map Option.isSome, outcome.2)

/-- Whether the step finds what it looks for, and the cursor behind it. -/
def run : Step → Cursor → Except Fault Bool × Cursor
  | blanks, c => found (c.scan Scanner.blanks)
  | literal expected, c => (.ok (c.pass expected.text).1, (c.pass expected.text).2)
  | keyword expected, c => c.passKeyword expected.text
  | word, c => found (c.scan Scanner.word)
  | numeral, c => found (c.scan Scanner.numeral)
  | weekday, c => found (c.scan Phrase.weekday)
  | month, c => found (c.scan Phrase.month)
  | timeOfDay, c => found (c.scan Phrase.timeOfDay)
  | relative today, c => found (c.scan (Phrase.relative today))
  | monthDay, c => found (c.scan Phrase.monthDay)

/-- Blanks and words are found even where there are none. -/
def isStrict : Step → Bool
  | blanks | word => false
  | _ => true

end Step

/-- The cursor behind some steps. -/
def Cursor.after (c : Cursor) (steps : List Step) : Cursor :=
  steps.foldl (fun here step => (step.run here).2) c

/-- A step that does not fail and stays within the text. It leaves the cursor where it is if it finds
nothing, and does not go back if it finds something; a strict one goes on then. -/
inductive Cursor.LeadsTo (c : Cursor) (strict : Bool) : Except Fault Bool × Cursor → Prop
  | stays : c.LeadsTo strict (.ok false, c)
  | moves {next : Cursor} : next.text = c.text → next.IsInside → c.pos ≤ next.pos →
      (strict = true → c.pos < next.pos) → c.LeadsTo strict (.ok true, next)

/-- What is read leaves a rest of the text, and a shorter one if the reader is strict. Reading does
not fail. -/
inductive Scanned.MovesOn {α : Type} (s : Text) (strict : Bool) : Scanned Text α → Prop
  | accept {a : α} {rest : Text} : rest <:+ s → (strict = true → rest.length < s.length) →
      MovesOn s strict (.accept a rest)
  | reject : MovesOn s strict .reject

/-- What a grammar writes has some code points. -/
def Grammar.Consumes {α : Type} (g : Grammar α) : Prop :=
  ∀ {s a rest}, g s a rest → rest.length < s.length

theorem consumes_digits : Grammar.Consumes Digits := by
  rintro s n rest ⟨digits, hsome, ⟨rfl, _⟩, _⟩
  have hlength := List.length_pos_iff.mpr hsome
  simp [hlength]

theorem IsKeyword.shorter {word s rest : Text} (hword : word ≠ []) (h : IsKeyword word s rest) :
    rest.length < s.length := by
  obtain ⟨⟨spelled, rfl, rfl⟩, _⟩ := h
  have hlength := List.length_pos_iff.mpr (mt List.map_eq_nil_iff.mpr hword)
  simp [hlength]

/-- A name is read by three letters at least. -/
theorem consumes_nameIn {names : List Text} (hnames : AreNames names) :
    Grammar.Consumes fun s (i : Nat) rest =>
      ∃ run behindRun name, IsRun isLetter s run behindRun ∧ names[i]? = some name ∧
        name.take minNameLength <+: lower run ∧
        rest = s.drop (commonLength (lower run) name) := by
  rintro s i rest ⟨run, behindRun, name, ⟨rfl, _⟩, hname, hbegins, rfl⟩
  have hmem := List.mem_of_getElem? hname
  have hlong := le_commonLength_iff.mpr ⟨hnames.long name hmem, hbegins⟩
  have hrun := commonLength_le (s := run) (hnames.small name hmem).2.1
  rw [List.length_drop, List.length_append]
  unfold minNameLength at hlong
  omega

theorem WritesMinute.suffix {s rest : Text} {minute : Nat} (h : WritesMinute s minute rest) :
    rest <:+ s := by
  rcases h with hdigits | _
  · exact (recognizes_numeral.suffix hdigits).trans (List.suffix_cons ':' _)
  · exact List.suffix_refl _

theorem consumes_writesTime : Grammar.Consumes WritesTime := by
  rintro s time rest ⟨hskips, hnumber, hskips', hminute, hend⟩
  have hbehind := (recognizes_endOfTime _ _).suffix hend |>.trans hminute.suffix
  have hlength := (hbehind.trans hskips'.suffix).length_le
  have hhour := consumes_digits hnumber
  have hfront := hskips.suffix.length_le
  omega

theorem consumes_writesMonthDay {writesName : Text → Text → Prop} :
    Grammar.Consumes (WritesMonthDay writesName) := by
  rintro s value rest ⟨hskips, hrun, _, _, hpoint, hskips', hcomma, hskips'', hday, _, _⟩
  have hname := hpoint.suffix.trans (hrun.suffix.trans hskips.suffix)
  have hatDay := hskips''.suffix.trans (hcomma.suffix.trans hskips'.suffix)
  exact (consumes_digits hday).trans_le (hatDay.trans hname).length_le

theorem consumes_writesOffset {startsName : Text → Text → Nat → Prop} {today : Date} :
    Grammar.Consumes (WritesOffset startsName today) := by
  rintro s offset rest (⟨hskips, hkeyword⟩ |
    ⟨hskips, hkeyword, hskips', hamount, hskips'', hrun, _⟩ | ⟨hskips, hkeyword, hskips', _⟩)
  all_goals
    have hfront := hskips.suffix.length_le
    have hword := hkeyword.shorter (by simp)
  · omega
  · have hunit := (hrun.suffix.trans hskips''.suffix).length_le
    have hbehind := consumes_digits hamount
    have hatAmount := hskips'.suffix.length_le
    omega
  · have hname := hskips'.suffix.length_le
    rw [List.length_drop]
    omega

namespace Scanner

theorem Recognizes.movesOn {α : Type} {p : Scanner Text α} {g : Grammar α} (hp : Recognizes p g)
    {strict : Bool} (hg : strict = true → g.Consumes) {s : Text} (hs : NumeralsFit s) :
    (p s).MovesOn s strict := by
  cases hread : p s with
  | accept a rest =>
      have hwrites := (hp.accept_iff hs).mp hread
      exact .accept (hp.suffix hwrites) fun hstrict => hg hstrict hwrites
  | reject => exact .reject
  | fault cause rest => exact absurd hread (hp.never_fails hs)

theorem movesOn_literal (expected : Literal) (s : Text) :
    (literal expected.text s).MovesOn s true := by
  rw [literal_text]
  split_ifs with hfound
  · have hlength := length_eq_of_lower expected.plain hfound
    have hsome := List.length_pos_iff.mpr expected.ne_nil
    rw [List.length_take] at hlength
    refine .accept (List.drop_suffix _ _) fun _ => ?_
    rw [List.length_drop]
    omega
  · exact .reject

theorem movesOn_keyword (expected : Literal) (s : Text) :
    (keyword expected.text s).MovesOn s true := by
  have hliteral := movesOn_literal expected s
  cases hread : literal expected.text s with
  | accept _ rest =>
      have hkeyword : keyword expected.text s = guard (!startsWithLetter rest) rest :=
        bind_of_accept hread
      rw [hread] at hliteral
      rw [hkeyword]
      cases !startsWithLetter rest with
      | true =>
          obtain ⟨hsuffix, hshorter⟩ := hliteral
          exact .accept hsuffix hshorter
      | false => exact .reject
  | reject =>
      have hkeyword : keyword expected.text s = .reject := bind_of_reject hread
      rw [hkeyword]
      exact .reject
  | fault cause rest =>
      rw [hread] at hliteral
      cases hliteral

end Scanner

namespace Cursor

variable {α : Type} {c : Cursor} {strict : Bool}

theorem leadsTo_of_movesOn (hc : c.IsInside) {outcome : Scanned Text α}
    (hmoves : outcome.MovesOn c.rest strict) :
    c.LeadsTo strict (Step.found (c.settle (c.locate outcome))) := by
  rcases hmoves with @⟨_, more, hrest, hshorter⟩ | _
  · have hlength := length_rest hc
    have hle := hrest.length_le
    obtain ⟨hstart, hend⟩ := hc
    have hbounds : 0 ≤ (c.text.length - more.length : Int) ∧
        (c.text.length - more.length : Int) ≤ c.text.length ∧
        c.pos ≤ c.text.length - more.length := by omega
    rw [locate, settle, upTo_eq ⟨hstart, hend⟩ hrest]
    refine .moves rfl ⟨hbounds.1, hbounds.2.1⟩ hbounds.2.2 fun hstrict => ?_
    have hlt := hshorter hstrict
    dsimp only
    omega
  · exact .stays

/-- What a step leads to is as good a place to go on from. -/
theorem LeadsTo.inside {outcome : Except Fault Bool × Cursor} (h : c.LeadsTo strict outcome)
    (hc : c.IsInside) :
    outcome.2.text = c.text ∧ outcome.2.IsInside ∧ c.pos ≤ outcome.2.pos := by
  cases h with
  | stays => exact ⟨rfl, hc, le_rfl⟩
  | moves htext hinside hle _ => exact ⟨htext, hinside, hle⟩

end Cursor

theorem run_literal {c : Cursor} (hc : c.IsInside) (expected : Literal) :
    (Step.literal expected).run c =
      Step.found (c.settle (c.locate (literal expected.text c.rest))) := by
  change (Except.ok (c.pass expected.text).1, (c.pass expected.text).2) = _
  rw [Cursor.pass, (agrees_literal expected.plain).reads hc.1, literal_text]
  split_ifs <;> rfl

theorem run_keyword {c : Cursor} (hc : c.IsInside) (expected : Literal) :
    (Step.keyword expected).run c =
      Step.found (c.settle (c.locate (keyword expected.text c.rest))) := by
  change c.passKeyword expected.text = _
  rw [Cursor.passKeyword, (agrees_keyword expected.plain).reads hc.1]
  cases keyword expected.text c.rest <;> rfl

theorem leadsTo_run {c : Cursor} (hc : c.IsInside) (hfit : NumeralsFit c.text) (step : Step) :
    c.LeadsTo step.isStrict (step.run c) := by
  have hrest := hfit.of_suffix c.rest_suffix
  have hscan : ∀ {α : Type} {p : {σ : Type} → [Tape σ] → Scanner σ α} {g : Grammar α}
      {strict : Bool}, Recognizes (p (σ := Text)) g → (strict = true → g.Consumes) →
      c.LeadsTo strict (Step.found (c.scan p)) := by
    intro α p g strict hp hg
    rw [Cursor.scan, if_pos hc.1]
    exact Cursor.leadsTo_of_movesOn hc (hp.movesOn hg hrest)
  cases step with
  | blanks => exact hscan recognizes_blanks fun hstrict => absurd hstrict Bool.false_ne_true
  | literal expected =>
      rw [run_literal hc]
      exact Cursor.leadsTo_of_movesOn hc (movesOn_literal expected c.rest)
  | keyword expected =>
      rw [run_keyword hc]
      exact Cursor.leadsTo_of_movesOn hc (movesOn_keyword expected c.rest)
  | word => exact hscan recognizes_word fun hstrict => absurd hstrict Bool.false_ne_true
  | numeral => exact hscan recognizes_numeral fun _ => consumes_digits
  | weekday =>
      exact hscan (recognizes_nameIn areNames_weekdays) fun _ => consumes_nameIn areNames_weekdays
  | month =>
      refine hscan ((recognizes_nameIn areNames_months).map fun i => i + 1) fun _ => ?_
      rintro s n rest ⟨i, hname, _⟩
      exact consumes_nameIn areNames_months hname
  | timeOfDay => exact hscan recognizes_timeOfDay fun _ => consumes_writesTime
  | relative today => exact hscan (recognizes_relative today) fun _ => consumes_writesOffset
  | monthDay => exact hscan recognizes_monthDay fun _ => consumes_writesMonthDay

/-- Behind any steps in a text whose numerals are short enough to be read, the cursor stands within
the text and not before the place from which they started. Any further step does not fail and stays
within the text as well. It leaves the cursor where it is if it finds nothing, and does not go back
if it finds something; then all but blanks and words lead on. -/
theorem leadsTo_after (c : Cursor) (hc : c.IsInside) (hfit : NumeralsFit c.text)
    (steps : List Step) (step : Step) :
    (c.after steps).text = c.text ∧ (c.after steps).IsInside ∧ c.pos ≤ (c.after steps).pos ∧
      (c.after steps).LeadsTo step.isStrict (step.run (c.after steps)) := by
  induction steps generalizing c with
  | nil => exact ⟨rfl, hc, le_rfl, leadsTo_run hc hfit step⟩
  | cons first steps ih =>
      obtain ⟨htext, hinside, hle⟩ := (leadsTo_run hc hfit first).inside hc
      obtain ⟨htext', hinside', hle', hleads⟩ := ih _ hinside (htext ▸ hfit)
      exact ⟨htext'.trans htext, hinside', hle.trans hle', hleads⟩

/-- Behind a date and its comma a time of day is found within the text. -/
theorem leadsTo_after_date :
    let c : Cursor := ⟨"due Feb 3, 7p!".toList, 3⟩
    let steps : List Step := [.monthDay, .literal ⟨[','], by decide, by decide⟩]
    c.IsInside ∧ NumeralsFit c.text ∧
      c.after steps = ⟨"due Feb 3, 7p!".toList, 10⟩ ∧ (c.after steps).IsInside ∧
      Step.timeOfDay.run (c.after steps) = (.ok true, ⟨"due Feb 3, 7p!".toList, 13⟩) ∧
      (c.after steps).LeadsTo true (Step.timeOfDay.run (c.after steps)) := by
  intro c steps
  have hc : c.IsInside := ⟨by decide, by decide⟩
  have hfit : NumeralsFit c.text := numeralsFit_of_length (by decide)
  obtain ⟨_, hinside, _, hleads⟩ := leadsTo_after c hc hfit steps .timeOfDay
  exact ⟨hc, hfit, by decide +kernel, hinside, by decide +kernel, hleads⟩

end Agenda.Phrase
