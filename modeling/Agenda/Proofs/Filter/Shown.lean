import Agenda.Proofs.Filter.Refusal
import Mathlib

/-!
Tokens with halves of surrogate pairs. For the reading of conditions a half is a sign like any other
that is neither a blank nor a bracket nor a letter of a kind: if the replacement sign is put in its
place, the pieces are the same, and whether the token is refused, and why, is the same.
-/

namespace Agenda

open Text

variable {α : Type} [Alphabet α]

/-- The code point itself if it is a character, and the replacement sign if it is none. -/
def Alphabet.shown (a : α) : Char := (Alphabet.point a).shown

theorem Alphabet.char?_cases (a : α) :
    Alphabet.char? a = some (Alphabet.shown a) ∨
      Alphabet.char? a = none ∧ Alphabet.shown a = '\ufffd' := by
  unfold char? shown
  cases point a with
  | char c => exact .inl rfl
  | half n hn => exact .inr ⟨rfl, rfl⟩

/-- The text with the replacement sign in place of each half. -/
def Text.inSigns (t : List α) : Text := t.map Alphabet.shown

/-- What stands for a half is found by no search for another sign. -/
theorem Alphabet.char?_eq_some_iff_shown {a : α} {sign : Char} (h : sign ≠ '\ufffd') :
    char? a = some sign ↔ shown a = sign := by
  rcases char?_cases a with hchar | ⟨hnone, hshown⟩
  · rw [hchar, Option.some.injEq]
  · rw [hnone, hshown]
    exact iff_of_false nofun (Ne.symm h)

theorem isBlank_shown (a : α) : isBlank (Alphabet.shown a) = isBlank a := by
  rcases Alphabet.char?_cases a with hchar | ⟨hnone, hshown⟩
  · rw [isBlank, isBlank, hchar]
    rfl
  · rw [hshown, isBlank, isBlank, hnone]
    decide

theorem trimStart_inSigns (t : List α) : trimStart (inSigns t) = inSigns (trimStart t) := by
  rw [inSigns, trimStart, List.dropWhile_map]
  exact congrArg (fun p => (t.dropWhile p).map _) (funext isBlank_shown)

theorem trimEnd_inSigns (t : List α) : trimEnd (inSigns t) = inSigns (trimEnd t) := by
  rw [inSigns, trimEnd, ← List.map_reverse, List.dropWhile_map, ← List.map_reverse]
  exact congrArg (fun p => ((t.reverse.dropWhile p).reverse).map _) (funext isBlank_shown)

theorem trim_inSigns (t : List α) : trim (inSigns t) = inSigns (trim t) := by
  rw [trim, trim, trimStart_inSigns, trimEnd_inSigns]

theorem isBlankText_inSigns (t : List α) : isBlankText (inSigns t) = isBlankText t := by
  rw [isBlankText, isBlankText, inSigns, List.all_map]
  exact congrArg (fun p => t.all p) (funext isBlank_shown)

theorem behind?_inSigns {sign : Char} (h : sign ≠ '\ufffd') (t : List α) :
    Alphabet.behind? sign (inSigns t) = (Alphabet.behind? sign t).map inSigns := by
  cases t with
  | nil => rfl
  | cons a rest =>
      rw [inSigns, List.map_cons, Alphabet.behind?, Alphabet.behind?]
      simp only [Alphabet.char?_char, Option.some.injEq, ← Alphabet.char?_eq_some_iff_shown h]
      split_ifs <;> rfl

namespace Filter

/-- The replacement sign agrees with no letter of the name. -/
def NotIn (name : Text) : Prop := ∀ c ∈ name, agrees c '\ufffd' = false

theorem nameAt?_inSigns {name : Text} (h : NotIn name) (s : List α) :
    nameAt? name (inSigns s) = (nameAt? name s).map (Prod.map id inSigns) := by
  induction name generalizing s with
  | nil => rfl
  | cons expected more ih =>
      cases s with
      | nil => rfl
      | cons a rest =>
          have hmore := ih (fun c hc => h c (List.mem_cons_of_mem _ hc)) rest
          rw [inSigns] at hmore
          rw [inSigns, List.map_cons, nameAt?, nameAt?, hmore]
          rcases Alphabet.char?_cases a with hchar | ⟨hnone, hshown⟩
          · rw [hchar]
            simp only [Alphabet.char?_char]
            split_ifs
            · cases nameAt? more rest <;> rfl
            · rfl
          · rw [hnone, hshown]
            simp [h expected List.mem_cons_self]

private theorem foldChar_replacement : foldChar '\ufffd' = '\ufffd' := by decide +kernel

private theorem notIn_name (kind : FilterKind) : NotIn kind.name := by
  intro c hc
  have hplain : c.toNat < 0x80 := allPlain_name kind c hc
  have hne : '\ufffd' ≠ c := by
    rintro rfl
    exact absurd hplain (by decide)
  have hother : ('\ufffd' == '\u0131') = false ∧ ('\ufffd' == '\u017f') = false := by decide
  simp [agrees, foldChar_replacement, hne, hother]

theorem kindAt?_inSigns (s : List α) :
    kindAt? (inSigns s) = (kindAt? s).map (Prod.map id inSigns) := by
  have hfind (kinds : List FilterKind) :
      kinds.findSome? (fun kind => nameAt? kind.name (inSigns s)) =
        (kinds.findSome? fun kind => nameAt? kind.name s).map (Prod.map id inSigns) := by
    induction kinds with
    | nil => rfl
    | cons kind more ih =>
        rw [List.findSome?_cons, List.findSome?_cons, nameAt?_inSigns (notIn_name kind), ih]
        cases nameAt? kind.name s <;> rfl
  unfold kindAt?
  rw [hfind]
  cases FilterKind.all.findSome? fun kind => nameAt? kind.name s with
  | none => rfl
  | some found =>
      simp only [Option.map_some, Option.bind_eq_bind, Option.bind_some, Prod.map, id,
        trimStart_inSigns, behind?_inSigns (show ':' ≠ '\ufffd' by decide)]
      cases Alphabet.behind? ':' (trimStart found.2) with
      | none => rfl
      | some rest => simp [trimStart_inSigns]

theorem isOpen_shown (a : α) : isOpen (Alphabet.shown a) = isOpen a := by
  rw [Bool.eq_iff_iff, isOpen, isOpen, bne_iff_ne, bne_iff_ne, Alphabet.char?_char, ne_eq, ne_eq,
    Option.some.injEq, Alphabet.char?_eq_some_iff_shown (by decide)]

private theorem takeWhile_isOpen (s : List α) :
    (inSigns s).takeWhile isOpen = inSigns (s.takeWhile isOpen) ∧
      (inSigns s).dropWhile isOpen = inSigns (s.dropWhile isOpen) := by
  have hopen : (isOpen ∘ Alphabet.shown : α → Bool) = isOpen := funext isOpen_shown
  rw [inSigns, List.takeWhile_map, List.dropWhile_map, hopen]
  exact ⟨rfl, rfl⟩

theorem bracketAt?_inSigns (s : List α) :
    bracketAt? (inSigns s) =
      (bracketAt? s).map fun (kind, value, length) => (kind, inSigns value, length) := by
  unfold bracketAt?
  rw [behind?_inSigns (by decide)]
  cases Alphabet.behind? '[' s with
  | none => rfl
  | some inside =>
      simp only [Option.map_some, Option.bind_eq_bind, Option.bind_some, trimStart_inSigns,
        kindAt?_inSigns]
      cases kindAt? (trimStart inside) with
      | none => rfl
      | some found =>
          obtain ⟨kind, rest⟩ := found
          obtain ⟨htake, hdrop⟩ := takeWhile_isOpen rest
          simp only [Option.map_some, Option.bind_some, Prod.map, id, htake, hdrop,
            behind?_inSigns (show ']' ≠ '\ufffd' by decide), trimEnd_inSigns]
          cases Alphabet.behind? ']' (rest.dropWhile isOpen) with
          | none => rfl
          | some after => simp [inSigns]

/-- A piece with the replacement sign in place of each half. -/
def Piece.shown : Piece α → Piece
  | .directive kind value => .directive kind (inSigns value)
  | .char c => .char (Alphabet.shown c)

theorem pieces_inSigns (s : List α) : pieces (inSigns s) = (pieces s).map Piece.shown := by
  have hafter (skip : Nat) :
      piecesAfter skip (inSigns s) = (piecesAfter skip s).map Piece.shown := by
    induction s generalizing skip with
    | nil => cases skip <;> rfl
    | cons c rest ih =>
        cases skip with
        | succ skip => exact ih skip
        | zero =>
            have hread := bracketAt?_inSigns (c :: rest)
            rw [inSigns, List.map_cons] at hread ⊢
            rw [piecesAfter, piecesAfter, hread]
            cases bracketAt? (c :: rest) with
            | none => exact congrArg _ (ih 0)
            | some found => exact congrArg _ (ih _)
  exact hafter 0

theorem remnants_shown (ps : List (Piece α)) :
    (ps.map Piece.shown).map Piece.remnant = inSigns (ps.map Piece.remnant) := by
  rw [inSigns, List.map_map, List.map_map]
  refine List.map_congr_left fun piece _ => ?_
  cases piece with
  | char c => rfl
  | directive kind value =>
      simp [Piece.shown, Piece.remnant, Alphabet.shown, Alphabet.ofChar, Alphabet.point_ofPoint]
      rfl

/-- Whether there was a failure, and which. -/
def verdict {β : Type} (outcome : Except Fault β) : Except Fault Unit := outcome.map fun _ => ()

/-- What follows a step decides no more than the step itself if it fails. -/
theorem verdict_bind {β γ δ ε : Type} {first : Except Fault β} {other : Except Fault γ}
    {next : β → Except Fault δ} {otherNext : γ → Except Fault ε}
    (hfirst : verdict first = verdict other)
    (hnext : ∀ b c, verdict (next b) = verdict (otherNext c)) :
    verdict (first >>= next) = verdict (other >>= otherNext) := by
  cases first with
  | error fault =>
      cases other with
      | error _ => exact congrArg _ (Except.error.inj hfirst)
      | ok c => cases hfirst
  | ok b =>
      cases other with
      | error _ => cases hfirst
      | ok c => exact hnext b c

theorem verdict_ofDirective {β : Type} [Alphabet β] (kind : Text) (value : List α)
    (other : List β) :
    verdict (Predicate.ofDirective kind value) = verdict (Predicate.ofDirective kind other) := by
  unfold Predicate.ofDirective
  cases FilterKind.ofName? kind <;> rfl

theorem verdict_directives (ps : List (Piece α)) :
    verdict (directives (ps.map Piece.shown)) = verdict (directives ps) := by
  induction ps with
  | nil => rfl
  | cons piece rest ih =>
      cases piece with
      | char c => exact ih
      | directive kind value =>
          refine verdict_bind (verdict_ofDirective kind _ value) fun p q => ?_
          exact verdict_bind ih fun _ _ => rfl

theorem bare?_inSigns (s : List α) :
    bare? (inSigns s) = (bare? s).map (Prod.map id inSigns) := by
  unfold bare?
  rw [kindAt?_inSigns]
  cases kindAt? s with
  | none => rfl
  | some found =>
      have hblank : (isBlank ∘ Alphabet.shown : α → Bool) = isBlank := funext isBlank_shown
      simp only [Option.map_some, Option.bind_eq_bind, Option.bind_some, Prod.map, id, inSigns,
        List.isEmpty_map, List.any_map, hblank]
      split_ifs <;> rfl

theorem verdict_remainder (rest : List α) :
    verdict (remainder (inSigns rest)) = verdict (remainder rest) := by
  unfold remainder
  rw [bare?_inSigns]
  have hempty : (inSigns rest).isEmpty = rest.isEmpty := List.isEmpty_map
  rw [hempty]
  split_ifs
  · rfl
  · cases bare? rest with
    | none => rfl
    | some found => exact verdict_bind (verdict_ofDirective found.1 _ found.2) fun _ _ => rfl

/-- A token is refused, and for which word, as the token with the replacement sign in place of each
half is. -/
theorem verdict_parse (token : List α) :
    verdict (parse (inSigns token)) = verdict (parse token) := by
  unfold parse
  rw [isBlankText_inSigns, pieces_inSigns, remnants_shown, trim_inSigns]
  split_ifs
  · rfl
  · refine verdict_bind (verdict_directives _) fun _ _ => ?_
    exact verdict_bind (verdict_remainder _) fun _ _ => rfl

/-- A token is read, or refused for a word in it that is no kind, and refused exactly if it is
misspelled. -/
theorem parse_cases_inSigns (token : List α) :
    (¬ Misspells (inSigns token) ∧ ∃ f, parse token = .ok f) ∨
      (Misspells (inSigns token) ∧
        ∃ word, HasVariant word ∧ parse token = .error (.unknownKind word)) := by
  have hverdict := verdict_parse token
  rcases parse_cases (inSigns token) with ⟨hread, f, hf⟩ | ⟨hmisspelled, word, hword, hfault⟩
  · rw [hf] at hverdict
    refine .inl ⟨hread, ?_⟩
    cases hparse : parse token with
    | ok g => exact ⟨g, rfl⟩
    | error fault =>
        rw [hparse] at hverdict
        cases hverdict
  · rw [hfault] at hverdict
    refine .inr ⟨hmisspelled, word, hword, ?_⟩
    cases hparse : parse token with
    | ok g =>
        rw [hparse] at hverdict
        cases hverdict
    | error fault =>
        rw [hparse] at hverdict
        rw [Except.error.inj hverdict.symm]

end Filter

end Agenda
