import Agenda.Proofs.Phrase.Cursor
import Agenda.Proofs.Phrase.TimeSyntax
import Mathlib

/-!
The half of the day that a suffix names, for a cursor that stands anywhere, before the start of its
text as well as behind the end, and for numerals of any length. What is read of a time is told by
the steps of the cursor: an hour, a minute and a suffix. They come to an hour of the half that the
suffix names, but that an hour in front of the suffix of the first half may count to 23. The hour is
checked when the suffix is read, so that these hours are rejected only in the second half.
-/

namespace Agenda.Phrase

open Text Scanner

/-- The end of a time of day, behind its hour and its minute and the blanks there. -/
def endOfTime {σ : Type} [Tape σ] (number minute : Nat) : Scanner σ (Nat × Nat) := do
  let hour := hourOfDay number (← Scanner.optional halfOfDay)
  guard (decide (hour ≤ 23) && decide (minute ≤ 59))
  return (hour, minute)

namespace Cursor

/-- A minute is read directly behind a colon. Where no colon is read it is 0. -/
inductive ReadsMinute (c : Cursor) : Nat → Cursor → Prop
  | written {behindColon behindMinute : Cursor} {minute : Nat} :
      c.pass [':'] = (true, behindColon) →
      behindColon.scan numeral = (.ok (some minute), behindMinute) →
      ReadsMinute c minute behindMinute
  | absent : c.pass [':'] = (false, c) → ReadsMinute c 0 c

/-- An hour, as it is written, and a minute are read, with the blanks around them. -/
inductive ReadsFields (c : Cursor) : Nat → Nat → Cursor → Prop
  | intro {atHour behindHour atMinute behindMinute atSuffix : Cursor} {number minute : Nat} :
      c.scan blanks = (.ok (some ()), atHour) →
      atHour.scan numeral = (.ok (some number), behindHour) →
      behindHour.scan blanks = (.ok (some ()), atMinute) →
      atMinute.ReadsMinute minute behindMinute →
      behindMinute.scan blanks = (.ok (some ()), atSuffix) →
      ReadsFields c number minute atSuffix

/-- A suffix is read, or none of the suffixes is. -/
inductive ReadsSuffix (c : Cursor) : Option Bool → Cursor → Prop
  | written {word : Text} {half : Bool} {behind : Cursor} : (word, half) ∈ suffixes →
      c.passKeyword word = (.ok true, behind) → ReadsSuffix c (some half) behind
  | absent : (∀ suffix ∈ suffixes, c.passKeyword suffix.1 = (.ok false, c)) →
      ReadsSuffix c none c

variable {c next : Cursor}

theorem suffix_cases {suffix : Text × Bool} (hsuffix : suffix ∈ suffixes) :
    keyword suffix.1 c = .reject ∨ ∃ next t rest, keyword suffix.1 c = .accept () next ∧
      Tape.ahead c = .ok t ∧ IsKeyword suffix.1 t rest := by
  obtain ⟨hsmall, hsome, _⟩ := suffixes_small suffix hsuffix
  exact keyword_cases hsmall hsome

/-- Where one suffix is read no other one is. -/
theorem suffix_other {suffix other : Text × Bool} (hsuffix : suffix ∈ suffixes)
    (hother : other ∈ suffixes) (hne : suffix.1 ≠ other.1)
    (hread : keyword suffix.1 c = .accept () next) : keyword other.1 c = .reject := by
  refine (suffix_cases hother).resolve_right ?_
  rintro ⟨_, t, _, _, hahead, hkeyword⟩
  rcases suffix_cases (c := c) hsuffix with hreject | ⟨_, t', _, _, hahead', hkeyword'⟩
  · cases hread.symm.trans hreject
  · cases hahead.symm.trans hahead'
    -- both would be the run of letters that is ahead
    have hletters := fun suffix hsuffix => (suffixes_small suffix hsuffix).2.2
    exact hne (hkeyword'.unique (hletters _ hsuffix) (hletters _ hother) hkeyword).1

theorem halfOfDay_eq_accept_iff {half : Bool} : halfOfDay c = .accept half next ↔
    ∃ word, (word, half) ∈ suffixes ∧ keyword word c = .accept () next := by
  constructor
  · intro hread
    have hword : ∀ {word : Text} {second : Bool}, (word, second) ∈ suffixes →
        ((fun _ => second) <$> keyword word : Scanner Cursor Bool) c = .accept half next →
        ∃ word, (word, half) ∈ suffixes ∧ keyword word c = .accept () next := by
      intro word second hmem hread
      obtain ⟨_, _, hkeyword, heq⟩ := accept_of_bind hread
      cases heq
      exact ⟨word, hmem, hkeyword⟩
    rcases accept_of_orElse hread with h | ⟨_, h⟩
    · exact hword (by decide) h
    rcases accept_of_orElse h with h | ⟨_, h⟩
    · exact hword (by decide) h
    rcases accept_of_orElse h with h | ⟨_, h⟩
    · exact hword (by decide) h
    · exact hword (by decide) h
  · rintro ⟨word, hmem, hread⟩
    -- those that are tried before this one reject
    have hother : ∀ other ∈ suffixes, word ≠ other.1 →
        ((fun _ => other.2) <$> keyword other.1 : Scanner Cursor Bool) c = .reject :=
      fun other hother hne => map_of_reject (suffix_other hmem hother hne hread)
    have ham := hother ("am".toList, false) (by decide)
    have hpm := hother ("pm".toList, true) (by decide)
    have ha := hother ("a".toList, false) (by decide)
    have hthis : ((fun _ => half) <$> keyword word : Scanner Cursor Bool) c = .accept half next :=
      bind_of_accept hread
    unfold halfOfDay
    simp only [suffixes, List.mem_cons, Prod.mk.injEq, List.not_mem_nil, or_false] at hmem
    obtain ⟨rfl, rfl⟩ | ⟨rfl, rfl⟩ | ⟨rfl, rfl⟩ | ⟨rfl, rfl⟩ := hmem
    · exact orElse_of_accept hthis
    · rw [orElse_of_reject (ham (by decide))]
      exact orElse_of_accept hthis
    · rw [orElse_of_reject (ham (by decide)), orElse_of_reject (hpm (by decide))]
      exact orElse_of_accept hthis
    · rw [orElse_of_reject (ham (by decide)), orElse_of_reject (hpm (by decide)),
        orElse_of_reject (ha (by decide))]
      exact hthis

theorem halfOfDay_eq_reject_iff : halfOfDay c = .reject ↔
    ∀ suffix ∈ suffixes, keyword suffix.1 c = .reject := by
  constructor
  · intro hreject suffix hsuffix
    refine (suffix_cases hsuffix).resolve_right ?_
    rintro ⟨_, _, _, hread, _⟩
    cases hreject.symm.trans (halfOfDay_eq_accept_iff.mpr ⟨_, hsuffix, hread⟩)
  · intro hnone
    unfold halfOfDay
    rw [orElse_of_reject (map_of_reject (hnone ("am".toList, false) (by decide))),
      orElse_of_reject (map_of_reject (hnone ("pm".toList, true) (by decide))),
      orElse_of_reject (map_of_reject (hnone ("a".toList, false) (by decide)))]
    exact map_of_reject (hnone ("p".toList, true) (by decide))

theorem readsSuffix_iff {half : Option Bool} :
    c.ReadsSuffix half next ↔ Scanner.optional halfOfDay c = .accept half next := by
  constructor
  · rintro (⟨hmem, hread⟩ | hnone)
    · have hhalf := halfOfDay_eq_accept_iff.mpr ⟨_, hmem, passKeyword_eq_true_iff.mp hread⟩
      exact orElse_of_accept (bind_of_accept hhalf)
    · refine optional_of_reject (halfOfDay_eq_reject_iff.mpr fun suffix hsuffix => ?_)
      exact passKeyword_eq_false_iff.mp (hnone suffix hsuffix)
  · intro hread
    rcases accept_of_optional hread with ⟨second, hhalf, rfl⟩ | ⟨hreject, rfl, rfl⟩
    · obtain ⟨word, hmem, hkeyword⟩ := halfOfDay_eq_accept_iff.mp hhalf
      exact .written hmem (passKeyword_eq_true_iff.mpr hkeyword)
    · refine .absent fun suffix hsuffix => passKeyword_eq_false_iff.mpr ?_
      exact halfOfDay_eq_reject_iff.mp hreject suffix hsuffix

theorem endOfTime_of_reads {number minute : Nat} {half : Option Bool}
    (hread : c.ReadsSuffix half next) : endOfTime number minute c =
      if hourOfDay number half ≤ 23 ∧ minute ≤ 59 then
        .accept (hourOfDay number half, minute) next
      else .reject := by
  refine (bind_of_accept (readsSuffix_iff.mp hread)).trans ?_
  change (guard (decide (hourOfDay number half ≤ 23) && decide (minute ≤ 59)) >>= fun _ =>
    pure (hourOfDay number half, minute)) next = _
  split_ifs with hranges
  · rw [← Bool.decide_and, decide_eq_true hranges]
    exact bind_of_accept (guard_true next)
  · rw [← Bool.decide_and, decide_eq_false hranges]
    exact bind_of_reject (guard_false next)

theorem exists_suffix_of_endOfTime {number minute : Nat} {time : Nat × Nat}
    (hread : endOfTime number minute c = .accept time next) :
    ∃ half, c.ReadsSuffix half next ∧ time.2 = minute := by
  obtain ⟨half, behind, hsuffix, hread⟩ := accept_of_bind hread
  rw [← readsSuffix_iff] at hsuffix
  obtain ⟨_, _, hguard, hread⟩ := accept_of_bind hread
  have hranges := of_guard_accept hguard
  rw [hranges] at hguard
  cases hguard
  cases hread
  exact ⟨half, hsuffix, rfl⟩

theorem timeOfDay_of_fields {number minute : Nat} {atSuffix : Cursor}
    (hread : c.ReadsFields number minute atSuffix) :
    timeOfDay c = endOfTime number minute atSuffix := by
  obtain ⟨hblanks, hnumber, hblanks', hminute, hblanks''⟩ := hread
  rw [scan_eq_some_iff agrees_blanks] at hblanks hblanks' hblanks''
  rw [scan_eq_some_iff agrees_numeral] at hnumber
  refine (bind_of_accept hblanks).trans ((bind_of_accept hnumber).trans
    ((bind_of_accept hblanks').trans ?_))
  obtain ⟨hcolon, hminute⟩ | hcolon := hminute
  · rw [pass_eq_true_iff] at hcolon
    rw [scan_eq_some_iff agrees_numeral] at hminute
    have hfound : Scanner.optional (literal [':']) _ = .accept (some ()) _ :=
      orElse_of_accept (bind_of_accept hcolon)
    exact (bind_of_accept hfound).trans ((bind_of_accept hminute).trans (bind_of_accept hblanks''))
  · rw [pass_eq_false_iff] at hcolon
    exact (bind_of_accept (optional_of_reject hcolon)).trans (bind_of_accept hblanks'')

theorem exists_fields_of_timeOfDay {time : Nat × Nat} (hread : timeOfDay c = .accept time next) :
    ∃ number atSuffix half, c.ReadsFields number time.2 atSuffix ∧
      atSuffix.ReadsSuffix half next := by
  obtain ⟨_, atHour, hblanks, hread⟩ := accept_of_bind hread
  obtain ⟨number, behindHour, hnumber, hread⟩ := accept_of_bind hread
  obtain ⟨_, atMinute, hblanks', hread⟩ := accept_of_bind hread
  obtain ⟨colon, behindColon, hcolon, hbehind⟩ := accept_of_bind hread
  rw [← scan_eq_some_iff agrees_blanks] at hblanks hblanks'
  rw [← scan_eq_some_iff agrees_numeral] at hnumber
  have hend : ∀ {minute : Nat} {behindMinute : Cursor}, atMinute.ReadsMinute minute behindMinute →
      (do blanks; endOfTime number minute : Scanner Cursor (Nat × Nat)) behindMinute =
        .accept time next →
      ∃ number atSuffix half, c.ReadsFields number time.2 atSuffix ∧
        atSuffix.ReadsSuffix half next := by
    intro minute behindMinute hminute hread
    obtain ⟨_, atSuffix, hblanks'', hread⟩ := accept_of_bind hread
    rw [← scan_eq_some_iff agrees_blanks] at hblanks''
    obtain ⟨half, hsuffix, rfl⟩ := exists_suffix_of_endOfTime hread
    exact ⟨number, atSuffix, half, .intro hblanks hnumber hblanks' hminute hblanks'', hsuffix⟩
  rcases accept_of_optional hcolon with ⟨_, hpassed, rfl⟩ | ⟨hreject, rfl, rfl⟩
  · obtain ⟨minute, behindMinute, hminute, hbehind⟩ := accept_of_bind hbehind
    rw [← scan_eq_some_iff agrees_numeral] at hminute
    exact hend (.written (pass_eq_true_iff.mpr hpassed) hminute) hbehind
  · exact hend (.absent (pass_eq_false_iff.mpr hreject)) hbehind

/-- What a time of day comes to by the fields and the suffix that are read. -/
theorem scan_timeOfDay_of_fields {number minute : Nat} {half : Option Bool} {atSuffix : Cursor}
    (hfields : c.ReadsFields number minute atSuffix) (hsuffix : atSuffix.ReadsSuffix half next) :
    c.scan timeOfDay =
      if hourOfDay number half ≤ 23 ∧ minute ≤ 59 then
        (.ok (some (hourOfDay number half, minute)), next)
      else (.ok none, c) := by
  rw [scan_eq agrees_timeOfDay, timeOfDay_of_fields hfields, endOfTime_of_reads hsuffix]
  split_ifs <;> rfl

end Cursor

/-- An hour that is written up to 12 comes to the one of the half that the suffix names. -/
theorem hourOfDay_of_le {number : Nat} (hnumber : number ≤ 12) (half : Bool) :
    (if half then 12 ≤ hourOfDay number (some half) ∧ hourOfDay number (some half) ≤ 23
      else hourOfDay number (some half) ≤ 11) ∧
    hourOfDay number (some half) % 12 = number % 12 := by
  cases half with
  | true =>
      simp only [hourOfDay, if_true]
      split_ifs <;> omega
  | false =>
      simp only [hourOfDay, Bool.false_eq_true, if_false]
      split_ifs <;> omega

/-- A later hour stays as it is in the first half and runs past the end of the second. -/
theorem hourOfDay_of_lt {number : Nat} (hnumber : 12 < number) (half : Bool) :
    hourOfDay number (some half) = if half then number + 12 else number := by
  unfold hourOfDay
  cases half <;> simp <;> omega

/-- The suffix of a time of day decides on the half of the day. What is accepted has been read as an
hour, a minute and a suffix or none. Behind an hour up to 12 a suffix makes it the hour of the half
that it names. A later hour is rejected in front of a suffix of the second half, and in front of one
of the first half if it is above 23; up to 23 it is the hour as it is written. -/
theorem scan_timeOfDay_half (c : Cursor) :
    (∀ hour minute next, c.scan timeOfDay = (.ok (some (hour, minute)), next) →
      ∃ number atSuffix half, c.ReadsFields number minute atSuffix ∧
        atSuffix.ReadsSuffix half next) ∧
    ∀ number minute atSuffix half next, c.ReadsFields number minute atSuffix →
      atSuffix.ReadsSuffix (some half) next →
      (number ≤ 12 → minute ≤ 59 → ∃ hour,
        c.scan timeOfDay = (.ok (some (hour, minute)), next) ∧
        (if half then 12 ≤ hour ∧ hour ≤ 23 else hour ≤ 11) ∧ hour % 12 = number % 12) ∧
      (12 < number → number ≤ 23 → minute ≤ 59 → half = false →
        c.scan timeOfDay = (.ok (some (number, minute)), next)) ∧
      (12 < number ∧ half = true ∨ 23 < number ∨ 59 < minute →
        c.scan timeOfDay = (.ok none, c)) := by
  constructor
  · intro hour minute next hscan
    rw [Cursor.scan_eq_some_iff agrees_timeOfDay] at hscan
    exact Cursor.exists_fields_of_timeOfDay hscan
  · intro number minute atSuffix half next hfields hsuffix
    rw [Cursor.scan_timeOfDay_of_fields hfields hsuffix]
    refine ⟨fun hnumber hminute => ?_, fun hnumber hlast hminute hhalf => ?_, fun hout => ?_⟩
    · obtain ⟨hhalf, hhour⟩ := hourOfDay_of_le hnumber half
      have hlast : hourOfDay number (some half) ≤ 23 := by
        split_ifs at hhalf <;> omega
      exact ⟨_, if_pos ⟨hlast, hminute⟩, hhalf, hhour⟩
    · subst hhalf
      rw [hourOfDay_of_lt hnumber]
      exact if_pos ⟨hlast, hminute⟩
    · refine if_neg fun hranges => ?_
      have hnumber : 12 < number := by omega
      rw [hourOfDay_of_lt hnumber] at hranges
      cases half <;> simp at hranges hout <;> omega

/-- A suffix of the second half is read five code points before the end of a text as well. -/
theorem scan_timeOfDay_half_from_end :
    (⟨"7 pm!".toList, -5⟩ : Cursor).ReadsFields 7 0 ⟨"7 pm!".toList, -3⟩ ∧
      (⟨"7 pm!".toList, -3⟩ : Cursor).ReadsSuffix (some true) ⟨"7 pm!".toList, -1⟩ ∧
      (⟨"7 pm!".toList, -5⟩ : Cursor).scan timeOfDay =
        (.ok (some (19, 0)), ⟨"7 pm!".toList, -1⟩) := by
  have hfields : (⟨"7 pm!".toList, -5⟩ : Cursor).ReadsFields 7 0 ⟨"7 pm!".toList, -3⟩ :=
    .intro rfl rfl rfl (.absent (by decide +kernel)) rfl
  have hsuffix : (⟨"7 pm!".toList, -3⟩ : Cursor).ReadsSuffix (some true) ⟨"7 pm!".toList, -1⟩ :=
    .written (by decide : ("pm".toList, true) ∈ suffixes) (by decide +kernel)
  obtain ⟨hour, hscan, hhalf, hhour⟩ :=
    ((scan_timeOfDay_half _).2 7 0 _ true _ hfields hsuffix).1 (by decide) (by decide)
  have heq : hour = 19 := by
    rw [if_pos rfl] at hhalf
    omega
  exact ⟨hfields, hsuffix, heq ▸ hscan⟩

/-- An hour above 12 is accepted in front of a suffix of the first half, though it is none of that
half. -/
theorem scan_timeOfDay_thirteen :
    (⟨"13am".toList, 0⟩ : Cursor).ReadsFields 13 0 ⟨"13am".toList, 2⟩ ∧
      (⟨"13am".toList, 2⟩ : Cursor).ReadsSuffix (some false) ⟨"13am".toList, 4⟩ ∧
      (⟨"13am".toList, 0⟩ : Cursor).scan timeOfDay =
        (.ok (some (13, 0)), ⟨"13am".toList, 4⟩) :=
  ⟨.intro rfl rfl rfl (.absent (by decide +kernel)) rfl,
    .written (by decide : ("am".toList, false) ∈ suffixes) (by decide +kernel), by decide +kernel⟩

end Agenda.Phrase
