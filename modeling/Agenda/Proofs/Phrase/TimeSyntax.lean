import Agenda.Proofs.Phrase.Token
import Mathlib

/-!
The grammar of times of day: an hour, a minute behind a colon, and a suffix that names the half of
the day. The scanner of times recognizes it, though it tries the suffixes one after another and
checks the hour only when it has read them all.
-/

namespace Agenda.Phrase

open Text

/-- The suffixes, each with whether it names the second half of the day. -/
def suffixes : List (Text × Bool) :=
  [("am".toList, false), ("pm".toList, true), ("a".toList, false), ("p".toList, true)]

/-- The hour on the 24-hour clock of an hour that is written in front of a suffix or without one. -/
inductive MeansHour : Nat → Option Bool → Nat → Prop
  | midnight : MeansHour 12 (some false) 0
  | noon : MeansHour 12 (some true) 12
  | firstHalf {hour : Nat} : hour ≠ 12 → MeansHour hour (some false) hour
  | secondHalf {hour : Nat} : hour ≠ 12 → MeansHour hour (some true) (hour + 12)
  | afternoon {hour : Nat} : hour < 12 → MeansHour hour none (hour + 12)
  | asWritten {hour : Nat} : 12 ≤ hour → MeansHour hour none hour

/-- A minute stands directly behind a colon. Where there is no colon it is 0. -/
inductive WritesMinute : Grammar Nat
  | written {s rest : Text} {minute : Nat} : Digits s minute rest →
      WritesMinute (':' :: s) minute rest
  | absent {s : Text} : s.head? ≠ some ':' → WritesMinute s 0 s

/-- A suffix is a word of its own. It is left out only where none stands. -/
inductive WritesSuffix : Grammar (Option Bool)
  | written {s word rest : Text} {half : Bool} : (word, half) ∈ suffixes → IsKeyword word s rest →
      WritesSuffix s (some half) rest
  | absent {s : Text} : (∀ found ∈ suffixes, ∀ rest, ¬ IsKeyword found.1 s rest) →
      WritesSuffix s none s

/-- What ends a time of day, behind its hour and its minute: a suffix behind blanks. With it they
have to come to a time that there is. -/
inductive EndsTime (number minute : Nat) : Grammar (Nat × Nat)
  | intro {s atSuffix rest : Text} {half : Option Bool} {hour : Nat} :
      Skips s atSuffix → WritesSuffix atSuffix half rest →
      MeansHour number half hour → hour ≤ 23 → minute ≤ 59 →
      EndsTime number minute s (hour, minute) rest

/-- A time of day, as hour and minute: an hour, behind blanks, a minute, behind blanks, and the
end. -/
inductive WritesTime : Grammar (Nat × Nat)
  | intro {s atHour behindHour atMinute behindMinute rest : Text} {number minute : Nat}
      {time : Nat × Nat} :
      Skips s atHour → Digits atHour number behindHour →
      Skips behindHour atMinute → WritesMinute atMinute minute behindMinute →
      EndsTime number minute behindMinute time rest →
      WritesTime s time rest

theorem meansHour_iff {number hour : Nat} {half : Option Bool} :
    MeansHour number half hour ↔ hour = hourOfDay number half := by
  constructor
  · rintro (_ | _ | hne | hne | hlt | hle)
    · rfl
    · rfl
    · simp [hourOfDay, hne]
    · simp [hourOfDay, hne]
    · simp [hourOfDay, hlt]
    · simp [hourOfDay, Nat.not_lt.mpr hle]
  · rintro rfl
    cases half with
    | none =>
        by_cases hlt : number < 12
        · simpa [hourOfDay, hlt] using MeansHour.afternoon hlt
        · simpa [hourOfDay, hlt] using MeansHour.asWritten (Nat.not_lt.mp hlt)
    | some second =>
        by_cases hnoon : number = 12
        · subst hnoon
          cases second with
          | false => exact MeansHour.midnight
          | true => exact MeansHour.noon
        · cases second with
          | false => simpa [hourOfDay, hnoon] using MeansHour.firstHalf hnoon
          | true => simpa [hourOfDay, hnoon] using MeansHour.secondHalf hnoon

theorem suffixes_small : ∀ suffix ∈ suffixes,
    IsSmall suffix.1 ∧ suffix.1 ≠ [] ∧ ∀ c ∈ suffix.1, isLetter c = true := by
  have hall : (suffixes.all fun suffix => decide (IsSmall suffix.1 ∧ suffix.1 ≠ []) &&
      suffix.1.all isLetter) = true := by decide
  simpa [and_assoc] using hall

namespace Scanner

/-- The order in which the suffixes are tried does not count, since none is read in front of a
letter. -/
theorem recognizes_halfOfDay : Recognizes (halfOfDay : Scanner Text Bool) fun s half rest =>
    ∃ word, (word, half) ∈ suffixes ∧ IsKeyword word s rest := by
  have hword : ∀ (word : Text) (half : Bool), IsSmall word →
      Recognizes ((fun _ => half) <$> keyword word : Scanner Text Bool) fun s found rest =>
        IsKeyword word s rest ∧ found = half := by
    intro word half hsmall
    refine ((recognizes_keyword word hsmall).map fun _ => half).congr ?_
    intro s found rest
    exact exists_const _
  have hletters : ∀ found ∈ suffixes, ∀ c ∈ found.1, isLetter c = true :=
    fun found hfound => (suffixes_small found hfound).2.2
  have hapart : suffixes.Pairwise fun found other => ∀ s rest rest' : Text,
      IsKeyword found.1 s rest → ¬ IsKeyword other.1 s rest' := by
    have hwords : suffixes.Pairwise fun found other => found.1 ≠ other.1 := by decide
    refine hwords.imp_of_mem fun hfound hother hne s rest rest' h h' => hne ?_
    exact (h.unique (hletters _ hfound) (hletters _ hother) h').1
  simp only [suffixes, List.pairwise_cons, List.mem_cons, List.not_mem_nil, or_false,
    forall_eq_or_imp, forall_eq] at hapart
  obtain ⟨⟨ham_pm, ham_a, ham_p⟩, ⟨hpm_a, hpm_p⟩, ha_p, _⟩ := hapart
  have hlast := (hword "a".toList false (by decide)).orElse_of_apart
    (hword "p".toList true (by decide)) fun h h' => ha_p _ _ _ h.1 h'.1
  have hsecond := (hword "pm".toList true (by decide)).orElse_of_apart hlast fun h h' =>
    h'.elim (fun h' => hpm_a _ _ _ h.1 h'.1) (fun h' => hpm_p _ _ _ h.1 h'.1)
  have hfirst := (hword "am".toList false (by decide)).orElse_of_apart hsecond
    fun h h' => by
    rcases h' with h' | h' | h'
    · exact ham_pm _ _ _ h.1 h'.1
    · exact ham_a _ _ _ h.1 h'.1
    · exact ham_p _ _ _ h.1 h'.1
  refine hfirst.congr ?_
  intro s half rest
  simp only [suffixes]
  grind

theorem recognizes_suffix :
    Recognizes (Scanner.optional halfOfDay : Scanner Text (Option Bool)) WritesSuffix := by
  refine recognizes_halfOfDay.optional.congr ?_
  intro s half rest
  constructor
  · rintro (⟨_, ⟨word, hword, hkeyword⟩, rfl⟩ | ⟨hnone, rfl, rfl⟩)
    · exact .written hword hkeyword
    · exact .absent fun found hfound rest hkeyword => hnone ⟨_, rest, _, hfound, hkeyword⟩
  · rintro (⟨hword, hkeyword⟩ | hnone)
    · exact Or.inl ⟨_, ⟨_, hword, hkeyword⟩, rfl⟩
    · refine Or.inr ⟨?_, rfl, rfl⟩
      rintro ⟨half, rest, word, hword, hkeyword⟩
      exact hnone _ hword rest hkeyword

theorem recognizes_endOfTime (number minute : Nat) : Recognizes (do
      blanks
      let hour := hourOfDay number (← Scanner.optional halfOfDay)
      Scanner.guard (decide (hour ≤ 23) && decide (minute ≤ 59))
      return (hour, minute) : Scanner Text (Nat × Nat)) (EndsTime number minute) := by
  refine (recognizes_blanks.bind fun _ => recognizes_suffix.bind fun _ =>
    (Recognizes.guard _).bind fun _ => Recognizes.pure _).congr ?_
  intro s time rest
  constructor
  · rintro ⟨_, atSuffix, hskips, half, _, hsuffix, _, _, ⟨hguard, rfl⟩, rfl, rfl⟩
    rw [Bool.and_eq_true, decide_eq_true_iff, decide_eq_true_iff] at hguard
    exact .intro hskips hsuffix (meansHour_iff.mpr rfl) hguard.1 hguard.2
  · rintro ⟨hskips, hsuffix, hmeans, hhour, hminute⟩
    rw [meansHour_iff] at hmeans
    subst hmeans
    exact ⟨(), _, hskips, _, _, hsuffix, (), _, ⟨by simp [hhour, hminute], rfl⟩, rfl, rfl⟩

theorem recognizes_timeOfDay : Recognizes (timeOfDay : Scanner Text (Nat × Nat)) WritesTime := by
  have hread : Recognizes (timeOfDay : Scanner Text (Nat × Nat)) _ :=
    recognizes_blanks.bind fun _ => recognizes_numeral.bind fun number =>
      recognizes_blanks.bind fun _ => (recognizes_mark (by decide)).bind
        (k := fun colon s time rest => ∃ minute behindMinute,
          (colon = some () ∧ Digits s minute behindMinute ∨
            colon = none ∧ minute = 0 ∧ behindMinute = s) ∧
          EndsTime number minute behindMinute time rest)
        fun colon => by
          cases colon with
          | none => exact ((Recognizes.pure 0).bind (recognizes_endOfTime number)).congr (by simp)
          | some _ => exact (recognizes_numeral.bind (recognizes_endOfTime number)).congr (by simp)
  refine hread.congr ?_
  intro s time rest
  constructor
  · rintro ⟨_, atHour, hskips, number, behindHour, hnumber, _, atMinute, hskips', colon,
      behindColon, hfound, minute, behindMinute, hminute, hend⟩
    refine .intro hskips hnumber hskips' ?_ hend
    rcases hfound with ⟨rfl, rfl⟩ | ⟨hhead, rfl, rfl⟩
    · obtain ⟨_, hdigits⟩ | ⟨hne, _⟩ := hminute
      · exact .written hdigits
      · cases hne
    · obtain ⟨hne, _⟩ | ⟨_, rfl, rfl⟩ := hminute
      · cases hne
      · exact .absent hhead
  · rintro ⟨hskips, hnumber, hskips', hminute, hend⟩
    refine ⟨(), _, hskips, _, _, hnumber, (), _, hskips', ?_⟩
    rcases hminute with hdigits | hhead
    · exact ⟨some (), _, Or.inl ⟨rfl, rfl⟩, _, _, Or.inl ⟨rfl, hdigits⟩, hend⟩
    · exact ⟨none, _, Or.inr ⟨hhead, rfl, rfl⟩, 0, _, Or.inr ⟨rfl, rfl, rfl⟩, hend⟩

end Scanner

/-- The scanner of times of day accepts exactly their grammar. In a text whose numerals are short
enough to be read, a cursor finds the hour and the minute that the grammar writes there and comes to
stand in front of the rest; where the grammar writes no time, there is none and the cursor stays. -/
theorem scan_timeOfDay (c : Cursor) (hc : c.IsInside) (hfit : NumeralsFit c.text) :
    c.Finds WritesTime (c.scan timeOfDay) :=
  Cursor.finds_of_recognizes Scanner.recognizes_timeOfDay hc hfit

/-- The suffix of this time is read behind its blank, in either case, and what follows it is not. -/
theorem scan_timeOfDay_evening :
    (⟨"at 7 :30 pM, or so".toList, 2⟩ : Cursor).scan timeOfDay =
      (.ok (some (19, 30)), ⟨"at 7 :30 pM, or so".toList, 11⟩) := by
  have hhour : Digits "7 :30 pM, or so".toList 7 " :30 pM, or so".toList :=
    ⟨['7'], by simp, isRun_iff.mpr ⟨rfl, rfl⟩, rfl⟩
  have hminute : Digits "30 pM, or so".toList 30 " pM, or so".toList :=
    ⟨"30".toList, by simp, isRun_iff.mpr ⟨rfl, rfl⟩, rfl⟩
  have hsuffix : IsKeyword "pm".toList "pM, or so".toList ", or so".toList :=
    ⟨⟨"pM".toList, rfl, rfl⟩, by rintro c ⟨⟩; rfl⟩
  have hend : EndsTime 7 30 " pM, or so".toList (19, 30) ", or so".toList :=
    .intro ⟨[' '], isRun_iff.mpr ⟨rfl, rfl⟩⟩ (.written (by decide) hsuffix) (.secondHalf (by simp))
      (by simp) (by simp)
  have hwrites : WritesTime " 7 :30 pM, or so".toList (19, 30) ", or so".toList :=
    .intro ⟨[' '], isRun_iff.mpr ⟨rfl, rfl⟩⟩ hhour ⟨[' '], isRun_iff.mpr ⟨rfl, rfl⟩⟩
      (.written hminute) hend
  have hfound := scan_timeOfDay ⟨"at 7 :30 pM, or so".toList, 2⟩ ⟨by simp, by simp⟩
    (numeralsFit_of_length (by decide))
  exact (hfound.1 (19, 30) _).mpr ⟨_, hwrites, rfl⟩

end Agenda.Phrase
