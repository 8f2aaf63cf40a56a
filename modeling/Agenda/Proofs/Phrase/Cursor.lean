import Agenda.Proofs.Phrase.Token
import Mathlib

/-!
Reading at a cursor. A cursor that does not stand in front of its text reads as the rest of the text
does, and comes to stand where the rest is that is left. So scanning is one and the same thing at
every position, and a scan can be taken apart into the steps of which it is made.
-/

namespace Agenda.Phrase

open Text

/-- What a scan leaves is a rest of the text. -/
def Scanned.LeavesRestOf {α : Type} (s : Text) : Scanned Text α → Prop
  | .accept _ rest | .fault _ rest => rest <:+ s
  | .reject => True

namespace Cursor

variable {α : Type} {c : Cursor} {rest : Text}

theorem ahead_eq (hc : 0 ≤ c.pos) : Tape.ahead c = .ok c.rest := if_pos hc

theorem stretch_eq (hc : 0 ≤ c.pos) (n : Nat) : Tape.stretch n c = c.rest.take n := by
  change (c.text.take (c.inFront (c.pos + n))).drop (c.inFront c.pos) =
    (c.text.drop (c.inFront c.pos)).take n
  rw [List.take_drop, inFront, inFront, if_neg (by omega), if_neg (by omega)]
  congr 2
  omega

theorem move_eq {n : Nat} (hn : n ≤ c.rest.length) : Tape.move n c = c.upTo (c.rest.drop n) := by
  unfold upTo
  rw [List.length_drop, Nat.sub_sub_self hn]
  rfl

theorem upTo_rest (c : Cursor) : c.upTo c.rest = c := by simp [upTo]

theorem pos_upTo_nonneg (hc : 0 ≤ c.pos) (rest : Text) : 0 ≤ (c.upTo rest).pos := by
  unfold upTo
  dsimp only
  omega

/-- Behind a move up to a rest, that rest is left. -/
theorem rest_upTo (hc : 0 ≤ c.pos) (hrest : rest <:+ c.rest) : (c.upTo rest).rest = rest := by
  have hpos : (c.upTo rest).inFront (c.upTo rest).pos =
      c.inFront c.pos + (c.rest.length - rest.length) := by
    unfold upTo inFront
    dsimp only
    rw [if_neg (by omega), if_neg (by omega)]
    omega
  rw [Cursor.rest, hpos]
  change c.text.drop (c.inFront c.pos + (c.rest.length - rest.length)) = rest
  rw [← List.drop_drop]
  exact (List.suffix_iff_eq_drop.mp hrest).symm

theorem locate_upTo {found : Scanned Text α} (hrest : rest <:+ c.rest) (hc : 0 ≤ c.pos)
    (hfound : found.LeavesRestOf rest) : (c.upTo rest).locate found = c.locate found := by
  have hupTo : ∀ {more : Text}, more <:+ rest → (c.upTo rest).upTo more = c.upTo more := by
    intro more hmore
    have hlength := hrest.length_le
    have hlength' := hmore.length_le
    rw [upTo, rest_upTo hc hrest]
    unfold upTo
    dsimp only
    congr 1
    omega
  cases found with
  | accept a more => exact congrArg (Scanned.accept a) (hupTo hfound)
  | reject => rfl
  | fault cause more => exact congrArg (Scanned.fault cause) (hupTo hfound)

end Cursor

namespace Scanner

variable {α β : Type}

/-- At a cursor that does not stand in front of its text, the second scanner reads what the first one
reads from the rest of the text. -/
structure Agrees (p : Scanner Text α) (q : Scanner Cursor α) : Prop where
  leaves : ∀ s, (p s).LeavesRestOf s
  reads : ∀ {c : Cursor}, 0 ≤ c.pos → q c = c.locate (p c.rest)

namespace Agrees

variable {p p' : Scanner Text α} {q q' : Scanner Cursor α}

theorem pure (a : α) : Agrees (Pure.pure a) (Pure.pure a) := by
  refine ⟨fun s => List.suffix_refl s, fun {c} _ => ?_⟩
  change Scanned.accept a c = .accept a (c.upTo c.rest)
  rw [c.upTo_rest]

theorem fail : Agrees (Scanner.fail : Scanner Text α) Scanner.fail := ⟨fun _ => trivial, fun _ => rfl⟩

theorem guard (condition : Bool) : Agrees (guard condition) (guard condition) := by
  cases condition with
  | true => exact pure ()
  | false => exact fail

theorem bind {f : α → Scanner Text β} {g : α → Scanner Cursor β} (hp : Agrees p q)
    (hf : ∀ a, Agrees (f a) (g a)) : Agrees (p >>= f) (q >>= g) := by
  constructor
  · intro s
    have hleaves := hp.leaves s
    cases hread : p s with
    | accept a middle =>
        rw [hread] at hleaves
        rw [bind_of_accept hread]
        have hmore := (hf a).leaves middle
        cases hnext : f a middle with
        | accept b rest =>
            rw [hnext] at hmore
            exact hmore.trans hleaves
        | reject => trivial
        | fault cause rest =>
            rw [hnext] at hmore
            exact hmore.trans hleaves
    | reject =>
        rw [bind_of_reject hread]
        trivial
    | fault cause rest =>
        rw [hread] at hleaves
        rwa [bind_of_fault hread]
  · intro c hc
    have hq := hp.reads hc
    have hleaves := hp.leaves c.rest
    cases hread : p c.rest with
    | accept a middle =>
        rw [hread] at hq hleaves
        rw [bind_of_accept hread, bind_of_accept hq, (hf a).reads (Cursor.pos_upTo_nonneg hc _),
          Cursor.rest_upTo hc hleaves, Cursor.locate_upTo hleaves hc ((hf a).leaves middle)]
    | reject =>
        rw [hread] at hq
        rw [bind_of_reject hread, bind_of_reject hq]
        rfl
    | fault cause rest =>
        rw [hread] at hq
        rw [bind_of_fault hread, bind_of_fault hq]
        rfl

theorem map (f : α → β) (hp : Agrees p q) : Agrees (f <$> p) (f <$> q) :=
  hp.bind fun a => pure (f a)

theorem orElse (hp : Agrees p q) (hp' : Agrees p' q') :
    Agrees (p.orElse p') (q.orElse q') := by
  constructor
  · intro s
    by_cases hread : p s = .reject
    · rw [orElse_of_reject hread]
      exact hp'.leaves s
    · rw [orElse_of_not_reject hread]
      exact hp.leaves s
  · intro c hc
    have hq := hp.reads hc
    by_cases hread : p c.rest = .reject
    · rw [hread] at hq
      rw [orElse_of_reject hread, orElse_of_reject hq, hp'.reads hc]
    · rw [orElse_of_not_reject hread, orElse_of_not_reject, hq]
      rw [hq]
      cases hfound : p c.rest with
      | accept a rest => exact nofun
      | reject => exact absurd hfound hread
      | fault cause rest => exact nofun

theorem optional (hp : Agrees p q) : Agrees (Scanner.optional p) (Scanner.optional q) :=
  (hp.map some).orElse (pure none)

end Agrees

theorem ahead_cursor {c : Cursor} (hc : 0 ≤ c.pos) :
    (ahead : Scanner Cursor Text) c = .accept c.rest c := by
  unfold ahead
  rw [Cursor.ahead_eq hc]

/-- The code points ahead of a cursor that are counted are those in front of the rest. -/
theorem count_cursor {c : Cursor} (hc : 0 ≤ c.pos) (isOne : Char → Bool) :
    count isOne c = .accept (c.rest.takeWhile isOne).length c :=
  bind_of_accept (ahead_cursor hc)

theorem agrees_blanks : Agrees blanks blanks := by
  constructor
  · intro s
    rw [blanks_text]
    exact List.dropWhile_suffix isBlank
  · intro c hc
    have hmove := Cursor.move_eq (c := c) (List.takeWhile_prefix isBlank).length_le
    unfold blanks
    rw [bind_of_accept (count_cursor hc isBlank)]
    change Scanned.accept () (Tape.move _ c) = _
    rw [hmove, drop_length_takeWhile]
    exact congrArg c.locate (blanks_text c.rest).symm

theorem agrees_numeral : Agrees numeral numeral := by
  have hnumber : ∀ {digits : Text} (c : Cursor) (rest : Text),
      numberOf digits (c.upTo rest) = c.locate (numberOf digits rest) := by
    intro digits c rest
    unfold numberOf
    split_ifs <;> rfl
  constructor
  · intro s
    have hrest := List.dropWhile_suffix isPlainDigit (l := s)
    rw [numeral_text, numberOf]
    split_ifs <;> first | exact trivial | exact hrest
  · intro c hc
    have hmove := Cursor.move_eq (c := c) (List.takeWhile_prefix isPlainDigit).length_le
    have htake : take (c.rest.takeWhile isPlainDigit).length c = .accept
        (c.rest.takeWhile isPlainDigit) (c.upTo (c.rest.dropWhile isPlainDigit)) := by
      change Scanned.accept (Tape.stretch _ c) (Tape.move _ c) = _
      rw [Cursor.stretch_eq hc, take_length_takeWhile, hmove, drop_length_takeWhile]
    rw [numeral_text]
    unfold numeral
    rw [bind_of_accept (count_cursor hc isPlainDigit)]
    split_ifs with hnil
    · rw [hnil]
      exact bind_of_reject (guard_false c)
    · have hsome : (c.rest.takeWhile isPlainDigit).length ≠ 0 := mt List.length_eq_zero_iff.mp hnil
      rw [decide_eq_true hsome, bind_of_accept (guard_true c), bind_of_accept htake, hnumber]

/-- A given text is looked for without ever failing. -/
theorem literal_cursor (expected : Text) (c : Cursor) :
    literal expected c =
      if lower (Tape.stretch expected.length c) = lower expected then
        .accept () (Tape.move expected.length c)
      else .reject := by
  change guard (decide (lower (Tape.stretch expected.length c) = lower expected))
    (Tape.move expected.length c) = _
  split_ifs with hfound
  · rw [decide_eq_true hfound, guard_true]
  · rw [decide_eq_false hfound, guard_false]

theorem agrees_literal {expected : Text} (hplain : AllPlain expected) :
    Agrees (literal expected) (literal expected) := by
  constructor
  · intro s
    rw [literal_text]
    split_ifs
    · exact List.drop_suffix _ _
    · trivial
  · intro c hc
    rw [literal_text]
    rw [literal_cursor, Cursor.stretch_eq hc]
    split_ifs with hfound
    · have hlength := length_eq_of_lower hplain hfound
      rw [List.length_take] at hlength
      rw [Cursor.move_eq (by omega)]
      rfl
    · rfl

theorem agrees_ahead : Agrees ahead ahead := by
  refine ⟨fun s => List.suffix_refl s, fun {c} hc => ?_⟩
  rw [ahead_cursor hc]
  change Scanned.accept c.rest c = .accept c.rest (c.upTo c.rest)
  rw [c.upTo_rest]

theorem agrees_keyword {expected : Text} (hplain : AllPlain expected) :
    Agrees (keyword expected) (keyword expected) :=
  (agrees_literal hplain).bind fun _ => agrees_ahead.bind fun _ => .guard _

end Scanner

open Scanner

theorem agrees_halfOfDay : Agrees halfOfDay halfOfDay := by
  refine .orElse ?_ (.orElse ?_ (.orElse ?_ ?_)) <;> exact (agrees_keyword (by decide)).map _

theorem agrees_timeOfDay : Agrees timeOfDay timeOfDay := by
  refine agrees_blanks.bind fun _ => agrees_numeral.bind fun hour => agrees_blanks.bind fun _ =>
    (agrees_literal (by decide)).optional.bind fun colon => ?_
  have hend : ∀ minute : Nat, Agrees (do
      blanks
      let hour := hourOfDay hour (← Scanner.optional halfOfDay)
      guard (decide (hour ≤ 23) && decide (minute ≤ 59))
      return (hour, minute)) (do
      blanks
      let hour := hourOfDay hour (← Scanner.optional halfOfDay)
      guard (decide (hour ≤ 23) && decide (minute ≤ 59))
      return (hour, minute)) := fun minute =>
    agrees_blanks.bind fun _ => agrees_halfOfDay.optional.bind fun _ => (Agrees.guard _).bind
      fun _ => .pure _
  cases colon with
  | none => exact (Agrees.pure 0).bind hend
  | some _ => exact agrees_numeral.bind hend

namespace Cursor

variable {α : Type} {c next : Cursor}

/-- Scanning is reading at the cursor, wherever that stands. -/
theorem scan_eq {p : {σ : Type} → [Tape σ] → Scanner σ α}
    (hp : Agrees (p (σ := Text)) (p (σ := Cursor))) (c : Cursor) : c.scan p = c.settle (p c) := by
  unfold scan
  split_ifs with hc
  · rw [hp.reads hc]
  · rfl

theorem scan_eq_some_iff {p : {σ : Type} → [Tape σ] → Scanner σ α}
    (hp : Agrees (p (σ := Text)) (p (σ := Cursor))) {a : α} :
    c.scan p = (.ok (some a), next) ↔ p c = .accept a next := by
  rw [scan_eq hp]
  cases p c with
  | accept b rest => simp [settle]
  | reject => simp [settle]
  | fault cause rest => simp [settle]

theorem pass_eq_true_iff {expected : Text} :
    c.pass expected = (true, next) ↔ literal expected c = .accept () next := by
  unfold pass
  rw [literal_cursor]
  split_ifs <;> simp

theorem pass_eq_false_iff {expected : Text} :
    c.pass expected = (false, c) ↔ literal expected c = .reject := by
  unfold pass
  rw [literal_cursor]
  split_ifs <;> simp

theorem passKeyword_eq_true_iff {word : Text} :
    c.passKeyword word = (.ok true, next) ↔ keyword word c = .accept () next := by
  unfold passKeyword
  cases keyword word c <;> simp

theorem passKeyword_eq_false_iff {word : Text} :
    c.passKeyword word = (.ok false, c) ↔ keyword word c = .reject := by
  unfold passKeyword
  cases keyword word c <;> simp

theorem move_zero (c : Cursor) : Tape.move 0 c = c := by
  change ({ c with pos := c.pos + (0 : Nat) } : Cursor) = c
  simp

/-- Where a stretch has its whole length, its code points come next, before the start of the text as
well as within it. -/
theorem ahead_of_stretch {n : Nat} (hn : 0 < n) (hlength : (Tape.stretch n c).length = n) :
    ∃ more, ∀ k ≤ n, Tape.ahead (Tape.move k c) = .ok ((Tape.stretch n c).drop k ++ more) := by
  have hstretch : Tape.stretch n c = (c.text.take (c.inFront (c.pos + n))).drop (c.inFront c.pos) :=
    rfl
  rw [hstretch, List.length_drop, List.length_take] at hlength
  -- a stretch across the end of the text is cut, so that this one lies on one side of it
  have hplaces : c.inFront (c.pos + n) = c.inFront c.pos + n ∧
      c.inFront c.pos + n ≤ c.text.length ∧ (c.pos < 0 → 0 ≤ c.text.length + c.pos ∧ c.pos + n < 0) := by
    unfold inFront at hlength ⊢
    split_ifs at hlength ⊢ <;> omega
  obtain ⟨hstop, hend, hfront⟩ := hplaces
  have hsplit : ∀ k ≤ n, c.text.drop (c.inFront c.pos + k) =
      (Tape.stretch n c).drop k ++ c.text.drop (c.inFront c.pos + n) := by
    intro k hk
    conv_lhs => rw [← List.take_append_drop (c.inFront c.pos + n) c.text]
    rw [hstretch, hstop, List.drop_drop, List.drop_append_of_le_length]
    rw [List.length_take]
    omega
  by_cases hc : 0 ≤ c.pos
  · refine ⟨c.text.drop (c.inFront c.pos + n), fun k hk => ?_⟩
    have hpos : (Tape.move k c).inFront (Tape.move k c).pos = c.inFront c.pos + k := by
      change c.inFront (c.pos + k) = _
      unfold inFront
      split_ifs <;> omega
    have hmove : 0 ≤ (Tape.move k c).pos := by
      change 0 ≤ c.pos + k
      omega
    rw [ahead_eq hmove, Cursor.rest, hpos]
    exact congrArg Except.ok (hsplit k hk)
  · refine ⟨c.text.drop (c.inFront c.pos + n) ++ c.text, fun k hk => ?_⟩
    obtain ⟨hbegin, hstop'⟩ := hfront (by omega)
    have hpos : (Tape.move k c).inFront (Tape.move k c).pos = c.inFront c.pos + k := by
      change c.inFront (c.pos + k) = _
      unfold inFront
      split_ifs <;> omega
    have hahead : Tape.ahead (Tape.move k c) = .ok ((Tape.move k c).rest ++ c.text) := by
      change (if 0 ≤ c.pos + k then _ else if 0 ≤ c.text.length + (c.pos + k) then _ else _) = _
      rw [if_neg (by omega), if_pos (by omega)]
      rfl
    rw [hahead, Cursor.rest, hpos, ← List.append_assoc]
    exact congrArg (fun t => Except.ok (t ++ c.text)) (hsplit k hk)

/-- A keyword is looked for without failing, wherever the cursor stands, and is read only in front of
what is ahead. -/
theorem keyword_cases {word : Text} (hsmall : IsSmall word) (hne : word ≠ []) :
    keyword word c = .reject ∨ ∃ next t rest, keyword word c = .accept () next ∧
      Tape.ahead c = .ok t ∧ IsKeyword word t rest := by
  have hliteral := literal_cursor word c
  split_ifs at hliteral with hfound
  · rw [hsmall.1, lower_eq_iff_of_small hsmall] at hfound
    have hlength : (Tape.stretch word.length c).length = word.length := by
      simpa using congrArg List.length hfound
    obtain ⟨more, hahead⟩ := ahead_of_stretch (List.length_pos_iff.mpr hne) hlength
    have hfront := hahead 0 (Nat.zero_le _)
    rw [move_zero, List.drop_zero] at hfront
    have hbehind := hahead word.length le_rfl
    rw [List.drop_of_length_le hlength.le, List.nil_append] at hbehind
    have hkeyword : keyword word c =
        guard (!startsWithLetter more) (Tape.move word.length c) := by
      refine (bind_of_accept hliteral).trans (bind_of_accept ?_)
      unfold ahead
      rw [hbehind]
    cases hletter : startsWithLetter more with
    | true =>
        rw [hletter] at hkeyword
        exact Or.inl hkeyword
    | false =>
        rw [hletter] at hkeyword
        refine Or.inr ⟨_, _, more, hkeyword, hfront, ⟨_, rfl, hfound⟩, ?_⟩
        cases more with
        | nil => exact nofun
        | cons d more => simpa [startsWithLetter] using hletter
  · exact Or.inl (bind_of_reject hliteral)

end Cursor

end Agenda.Phrase
