import Agenda.Proofs.Phrase.Ignoring
import Mathlib

/-!
Where phrases end. A code point that is no blank, letter, digit or one of three marks ends a phrase:
no scanner goes past it, and in front of it each does what it does at the end of the text. So what
follows such a code point has no part in what the phrase means.
-/

namespace Agenda.Phrase

open Calendar Clock Text

/-- A code point with which no phrase can go on. -/
structure EndsPhrase (c : Char) : Prop where
  not_blank : isBlank c = false
  not_letter : isLetter c = false
  not_digit : isPlainDigit c = false
  not_mark : c ∉ marks

/-- A text that starts with a code point which ends a phrase. -/
def IsTail (tail : Text) : Prop := ∃ c rest, tail = c :: rest ∧ EndsPhrase c

theorem EndsPhrase.isBreak {c : Char} (hc : EndsPhrase c) : IsBreak c :=
  ⟨hc.not_letter, hc.not_digit, hc.not_mark⟩

/-- In front of the tail every scanner does what it does at the end of a text. -/
theorem isIgnored_append {tail : Text} (htail : IsTail tail) : IsIgnored (· ++ tail) := by
  obtain ⟨c, rest, rfl, hc⟩ := htail
  have hbreak : ∀ d ∈ (c :: rest).head?, IsBreak d := by
    rintro d ⟨⟩
    exact hc.isBreak
  have hblank : ∀ d ∈ (c :: rest).head?, isBlank d = false := by
    rintro d ⟨⟩
    exact hc.not_blank
  have hblanks : Scanner.Ignores (· ++ c :: rest) Scanner.blanks := by
    intro s
    rw [Scanner.blanks_text, Scanner.blanks_text]
    exact congrArg (Scanned.accept ()) (Scanner.dropWhile_append hblank s)
  exact ⟨hblanks, Scanner.numeral_append hbreak, Scanner.word_append hbreak,
    Scanner.literal_append hbreak, Scanner.startsWithLetter_append hbreak,
    Scanner.nameIn_append hbreak⟩

section Rules

variable {tail : Text} (htail : IsTail tail) (z : Zone) (now : LocalTime) (text : Text)
include htail

theorem readTime_append : readTime z now (text ++ tail) = readTime z now text :=
  (isIgnored_append htail).readTime z now text

theorem firstRule_append : firstRule rules z now (text ++ tail) = firstRule rules z now text :=
  (isIgnored_append htail).firstRule z now text

end Rules

/-- A rule that stops at the tail and makes nothing of blanks means the same with the tail and
without it, except where the text is blank, and so is not read at all, and now is no local time. -/
private theorem rule_append_iff (rule : Rule) {tail : Text} (htail : IsTail tail) {text : Text}
    (happend : ∀ z now, rule z now (text ++ tail) = rule z now text)
    (hblank : isBlankText text = true → ∀ z now, rule z now text = .ok none)
    (clock : WallClock) (anchor : Anchor) :
    (match usable? (some (text ++ tail)) with
      | none => return none
      | some text => do rule clock.zone (← clock.resolve anchor) text) =
        (match usable? (some text) with
          | none => return none
          | some text => do rule clock.zone (← clock.resolve anchor) text) ↔
      (isBlankText text = true → ∃ now, clock.resolve anchor = .ok now) := by
  have husable : usable? (some (text ++ tail)) = some (text ++ tail) := by
    obtain ⟨c, rest, rfl, hc⟩ := htail
    exact if_neg (by simp [isBlankText, hc.not_blank])
  rw [husable]
  dsimp only
  by_cases htext : isBlankText text = true
  · rw [show usable? (some text) = none from if_pos htext, forall_prop_of_true htext]
    cases clock.resolve anchor with
    | error cause =>
        refine iff_of_false ?_ ?_
        · intro heq
          cases heq
        · rintro ⟨_, hnow⟩
          cases hnow
    | ok now => exact iff_of_true ((happend _ _).trans (hblank htext _ _)) ⟨now, rfl⟩
  · rw [show usable? (some text) = some text from if_neg htext]
    refine iff_of_true ?_ fun hblankText => absurd hblankText htext
    simp only [happend]

/-- What follows the end of a phrase has no part in what it means. A text that is cut off before a
code point with which no phrase can go on means what the whole text means, and fails where that
fails; only a text of nothing but blanks, which is not read at all, names nothing even where now
cannot be told, and with anything behind it fails there. -/
theorem resolve_append_iff {c : Char} (hc : EndsPhrase c) (clock : WallClock) (anchor : Anchor)
    (text rest : Text) :
    (resolve clock anchor (some (text ++ c :: rest)) = resolve clock anchor (some text) ↔
      (isBlankText text = true → ∃ now, clock.resolve anchor = .ok now)) ∧
    (resolveTime clock anchor (some (text ++ c :: rest)) = resolveTime clock anchor (some text) ↔
      (isBlankText text = true → ∃ now, clock.resolve anchor = .ok now)) := by
  have htail : IsTail (c :: rest) := ⟨c, rest, rfl, hc⟩
  constructor
  · apply rule_append_iff (firstRule rules) htail
    · intro z now
      exact firstRule_append htail z now text
    · intro hblank z now
      exact firstRule_of_all_none fun rule hrule => rule_of_blank hrule hblank z now
  · apply rule_append_iff readTime htail
    · intro z now
      exact readTime_append htail z now text
    · intro hblank z now
      exact rule_of_blank (by simp [rules]) hblank z now

/-- Behind an exclamation mark, a time of day has no part in a weekday. -/
theorem resolve_append_exclamation :
    EndsPhrase '!' ∧
      resolve ⟨.utc, .ofInt 0⟩ (.counted (.ofInt 1792405800)) (some "fri ! 5pm".toList) =
        resolve ⟨.utc, .ofInt 0⟩ (.counted (.ofInt 1792405800)) (some "fri ".toList) := by
  have hc : EndsPhrase '!' := ⟨by decide, by decide, by decide, by decide⟩
  refine ⟨hc, ?_⟩
  exact (resolve_append_iff hc _ _ "fri ".toList " 5pm".toList).1.mpr fun hblank =>
    absurd hblank (by decide)

/-- From the first second after the calendar, an empty text names nothing, and with an exclamation
mark behind it the text fails. -/
theorem resolve_append_differ :
    EndsPhrase '!' ∧
      resolve ⟨.utc, .ofInt 0⟩ (.counted (.ofInt 253402300800)) (some []) = .ok none ∧
      resolve ⟨.utc, .ofInt 0⟩ (.counted (.ofInt 253402300800)) (some ([] ++ ['!'])) =
        .error (.yearOutside 10000) :=
  ⟨⟨by decide, by decide, by decide, by decide⟩, by decide, by decide +kernel⟩

end Agenda.Phrase
