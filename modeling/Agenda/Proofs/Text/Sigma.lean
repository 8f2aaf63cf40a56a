import Agenda.Proofs.Text.Lower

/-!
How the lowercase of a text hangs on what stands around it. Only a capital sigma looks at its
neighbours: it takes the final form if a letter with case stands before it and none behind it, and
marks and other code points without a part in this are passed over on both sides. So a piece of a text
is lowercased as it is alone if each of its sigmas ends a word there exactly if it does here.
-/

namespace Agenda.Text

/-- A code point that is passed over when a sigma looks for its neighbours. -/
def isIgnorable (c : Char) : Bool := covers ignorableRanges c.toNat

/-- A letter with case that is not passed over. -/
def isCased (c : Char) : Bool := covers casedRanges c.toNat

def AllIgnorable (t : Text) : Prop := ∀ c ∈ t, isIgnorable c = true

/-- A letter with case ends the text, last or in front of code points that are passed over. If there
are no others, `afterCased` tells what stands in front of the text. -/
def endsCased (afterCased : Bool) (t : Text) : Bool :=
  t.foldl (fun cased c => if isIgnorable c then cased else isCased c) afterCased

/-- A sigma between the two texts ends a word. -/
def isFinal (front rest : Text) : Bool := endsCased false front && !startsCased rest

/-- The lowercase of a text in front of another one. -/
def lowerBefore (afterCased : Bool) (behind : Text) : Text → Text
  | [] => []
  | c :: rest =>
    (if c = 'Σ' then [if afterCased && !startsCased (rest ++ behind) then 'ς' else 'σ']
      else lowerChar c) ++
      lowerBefore (if isIgnorable c then afterCased else isCased c) behind rest

private theorem startsCased_eq (t : Text) :
    startsCased t = (t.dropWhile isIgnorable).head?.elim false isCased := by
  have hpassed : (fun c : Char => covers ignorableRanges c.toNat) = isIgnorable := rfl
  unfold startsCased
  rw [hpassed]
  cases t.dropWhile isIgnorable <;> rfl

theorem startsCased_cons (c : Char) (rest : Text) :
    startsCased (c :: rest) = if isIgnorable c then startsCased rest else isCased c := by
  rw [startsCased_eq, startsCased_eq]
  by_cases hc : isIgnorable c = true
  · rw [if_pos hc, List.dropWhile_cons_of_pos hc]
  · rw [if_neg hc, List.dropWhile_cons_of_neg hc]
    rfl

theorem endsCased_cons (afterCased : Bool) (c : Char) (rest : Text) :
    endsCased afterCased (c :: rest) =
      endsCased (if isIgnorable c then afterCased else isCased c) rest := rfl

theorem endsCased_append (afterCased : Bool) (a b : Text) :
    endsCased afterCased (a ++ b) = endsCased (endsCased afterCased a) b := by
  unfold endsCased
  exact List.foldl_append

private theorem sigma_has_case : isCased 'Σ' = true ∧ isIgnorable 'Σ' = false := by
  decide

theorem endsCased_of_allIgnorable {t : Text} (h : AllIgnorable t) (afterCased : Bool) :
    endsCased afterCased t = afterCased := by
  induction t with
  | nil => rfl
  | cons c rest ih =>
      obtain ⟨hc, hrest⟩ := List.forall_mem_cons.mp h
      rw [endsCased_cons, if_pos hc, ih hrest]

/-- A code point that is not passed over hides what stands in front of it. -/
theorem endsCased_of_not_allIgnorable {t : Text} (h : ¬ AllIgnorable t) (afterCased other : Bool) :
    endsCased afterCased t = endsCased other t := by
  induction t with
  | nil => exact absurd (fun c hc => by cases hc) h
  | cons c rest ih =>
      rw [endsCased_cons, endsCased_cons]
      by_cases hc : isIgnorable c = true
      · rw [if_pos hc, if_pos hc]
        exact ih fun hrest => h (List.forall_mem_cons.mpr ⟨hc, hrest⟩)
      · rw [if_neg hc, if_neg hc]

theorem startsCased_append_of_allIgnorable {t : Text} (h : AllIgnorable t) (behind : Text) :
    startsCased (t ++ behind) = startsCased behind := by
  induction t with
  | nil => rfl
  | cons c rest ih =>
      obtain ⟨hc, hrest⟩ := List.forall_mem_cons.mp h
      rw [List.cons_append, startsCased_cons, if_pos hc, ih hrest]

/-- A code point that is not passed over hides what stands behind it. -/
theorem startsCased_append_of_not_allIgnorable {t : Text} (h : ¬ AllIgnorable t) (behind : Text) :
    startsCased (t ++ behind) = startsCased t := by
  induction t with
  | nil => exact absurd (fun c hc => by cases hc) h
  | cons c rest ih =>
      rw [List.cons_append, startsCased_cons, startsCased_cons]
      by_cases hc : isIgnorable c = true
      · rw [if_pos hc, if_pos hc]
        exact ih fun hrest => h (List.forall_mem_cons.mpr ⟨hc, hrest⟩)
      · rw [if_neg hc, if_neg hc]

theorem startsCased_of_allIgnorable {t : Text} (h : AllIgnorable t) : startsCased t = false := by
  have hnil := startsCased_append_of_allIgnorable h []
  rw [List.append_nil] at hnil
  rw [hnil]
  rfl

theorem startsCased_sigma (rest : Text) : startsCased ('Σ' :: rest) = true := by
  rw [startsCased_cons, sigma_has_case.1, sigma_has_case.2]
  rfl

theorem lowerFrom_eq_lowerBefore (afterCased : Bool) (t : Text) :
    lowerFrom afterCased t = lowerBefore afterCased [] t := by
  induction t generalizing afterCased with
  | nil => rfl
  | cons c rest ih =>
      rw [lowerFrom, lowerBefore, List.append_nil, ih]
      rfl

/-- The lowercase of two texts together, piece by piece. -/
theorem lowerBefore_append (afterCased : Bool) (behind a b : Text) :
    lowerBefore afterCased behind (a ++ b) =
      lowerBefore afterCased (b ++ behind) a ++
        lowerBefore (endsCased afterCased a) behind b := by
  induction a generalizing afterCased with
  | nil => rfl
  | cons c rest ih =>
      rw [List.cons_append, lowerBefore, lowerBefore, ih, endsCased_cons, List.append_assoc,
        List.append_assoc]

/-- The lowercase is the same between other texts if the sigmas are of the same form there. -/
theorem lowerBefore_congr {t behind behind' : Text} {afterCased afterCased' : Bool}
    (h : ∀ front rest, t = front ++ 'Σ' :: rest →
      (endsCased afterCased front && !startsCased (rest ++ behind)) =
        (endsCased afterCased' front && !startsCased (rest ++ behind'))) :
    lowerBefore afterCased behind t = lowerBefore afterCased' behind' t := by
  induction t generalizing afterCased afterCased' with
  | nil => rfl
  | cons c more ih =>
      have hmore := ih fun front rest hsplit => h (c :: front) rest (by rw [hsplit]; rfl)
      rw [lowerBefore, lowerBefore, hmore]
      by_cases hc : c = 'Σ'
      · have hhere := h [] more (by rw [hc]; rfl)
        change (afterCased && !startsCased (more ++ behind)) =
          (afterCased' && !startsCased (more ++ behind')) at hhere
        rw [hhere]
      · rw [if_neg hc, if_neg hc]

theorem lowerBefore_sigma (afterCased : Bool) (behind front rest : Text) :
    lowerBefore afterCased behind (front ++ 'Σ' :: rest) =
      lowerBefore afterCased ('Σ' :: (rest ++ behind)) front ++
        (if endsCased afterCased front && !startsCased (rest ++ behind) then 'ς' else 'σ') ::
          lowerBefore true behind rest := by
  rw [lowerBefore_append, lowerBefore, if_pos rfl, sigma_has_case.1, sigma_has_case.2]
  rfl

/-- Between the two texts, each sigma of the text ends a word exactly if it does where the text
stands alone. -/
def KeepsSigmas (a t b : Text) : Prop :=
  ∀ front rest, t = front ++ 'Σ' :: rest → isFinal (a ++ front) (rest ++ b) = isFinal front rest

/-- The lowercase of a piece stands in the lowercase of the whole, if its sigmas keep their form. -/
theorem KeepsSigmas.lower_infix {a t b : Text} (h : KeepsSigmas a t b) :
    lower t <:+: lower (a ++ t ++ b) := by
  have hpiece : lowerBefore (endsCased false a) b t = lower t := by
    rw [lower_char, lowerFrom_eq_lowerBefore]
    apply lowerBefore_congr
    intro front rest hsplit
    rw [← endsCased_append, List.append_nil]
    exact h front rest hsplit
  refine ⟨lowerBefore false (t ++ b) a, lowerBefore (endsCased false (a ++ t)) [] b, ?_⟩
  rw [← hpiece, lower_char, lowerFrom_eq_lowerBefore, lowerBefore_append, lowerBefore_append,
    List.append_nil]

/-- A sigma of the text ends a word or not by what stands around the text. Nothing but code points
that are passed over stands in front of it, and no letter with case behind it; or a letter with case
stands in front of it, and nothing but code points that are passed over behind it. -/
def HasLooseSigma (t : Text) : Prop :=
  ∃ front rest, t = front ++ 'Σ' :: rest ∧
    (AllIgnorable front ∧ startsCased rest = false ∨
      endsCased false front = true ∧ AllIgnorable rest)

theorem keepsSigmas_of_not_hasLooseSigma {t : Text} (h : ¬ HasLooseSigma t) (a b : Text) :
    KeepsSigmas a t b := by
  intro front rest hsplit
  unfold isFinal
  rw [endsCased_append]
  by_cases hfront : AllIgnorable front
  · have hrest : startsCased rest = true := by
      by_contra hrest
      exact h ⟨front, rest, hsplit, Or.inl ⟨hfront, by simpa using hrest⟩⟩
    have hrest' : ¬ AllIgnorable rest := by
      intro hall
      rw [startsCased_of_allIgnorable hall] at hrest
      cases hrest
    rw [startsCased_append_of_not_allIgnorable hrest', hrest]
    simp
  · rw [endsCased_of_not_allIgnorable hfront _ false]
    cases hcased : endsCased false front with
    | false => rfl
    | true =>
        have hrest : ¬ AllIgnorable rest :=
          fun hall => h ⟨front, rest, hsplit, Or.inr ⟨hcased, hall⟩⟩
        rw [startsCased_append_of_not_allIgnorable hrest]

/-- Code points that are passed over are no sigmas. -/
private theorem lowerBefore_of_allIgnorable {t : Text} (h : AllIgnorable t)
    (afterCased afterCased' : Bool) (behind behind' : Text) :
    lowerBefore afterCased behind t = lowerBefore afterCased' behind' t := by
  apply lowerBefore_congr
  rintro front rest rfl
  have hsigma := h 'Σ' (by simp)
  rw [sigma_has_case.2] at hsigma
  cases hsigma

/-- What stands behind a sigma does not count for what stands in front of it. -/
private theorem lowerBefore_before_sigma (afterCased : Bool) (t rest rest' : Text) :
    lowerBefore afterCased ('Σ' :: rest) t = lowerBefore afterCased ('Σ' :: rest') t := by
  apply lowerBefore_congr
  intro front more _
  by_cases hmore : AllIgnorable more
  · rw [startsCased_append_of_allIgnorable hmore, startsCased_append_of_allIgnorable hmore,
      startsCased_sigma, startsCased_sigma]
  · rw [startsCased_append_of_not_allIgnorable hmore, startsCased_append_of_not_allIgnorable hmore]

/-- A text does not stand in one that has fewer code points of some kind. -/
private theorem not_infix_of_count_lt {c : Char} {t whole : Text}
    (h : whole.count c < t.count c) : ¬ t <:+: whole :=
  fun hpiece => absurd (hpiece.sublist.count_le c) (not_le.mpr h)

private theorem letter_has_case : isCased 'a' = true ∧ isIgnorable 'a' = false := by
  decide

private theorem lowerBefore_letter (afterCased : Bool) (behind rest : Text) :
    lowerBefore afterCased behind ('a' :: rest) = 'a' :: lowerBefore true behind rest := by
  have hlower : lowerChar 'a' = ['a'] := by decide
  rw [lowerBefore, if_neg (by decide), hlower, letter_has_case.1, letter_has_case.2]
  rfl

private theorem startsCased_append_letter {t : Text} (h : AllIgnorable t) :
    startsCased (t ++ ['a']) = true := by
  rw [startsCased_append_of_allIgnorable h, startsCased_cons, letter_has_case.1, letter_has_case.2]
  rfl

/-- A loose sigma in front takes the other form behind a letter, and one at the end in front of a
letter. -/
theorem HasLooseSigma.exists_not_infix {t : Text} (h : HasLooseSigma t) :
    ∃ whole, t <:+: whole ∧ ¬ lower t <:+: lower whole := by
  obtain ⟨front, rest, rfl, ⟨hfront, hrest⟩ | ⟨hfront, hrest⟩⟩ := h
  · refine ⟨'a' :: (front ++ 'Σ' :: rest), (List.suffix_cons _ _).isInfix, ?_⟩
    have hsame := lowerBefore_of_allIgnorable hfront true false ('Σ' :: rest) ('Σ' :: rest)
    apply not_infix_of_count_lt (c := 'σ')
    rw [lower_char, lower_char, lowerFrom_eq_lowerBefore, lowerFrom_eq_lowerBefore, lowerBefore_letter,
      lowerBefore_sigma, lowerBefore_sigma, endsCased_of_allIgnorable hfront,
      endsCased_of_allIgnorable hfront, List.append_nil, hrest, hsame]
    simp
  · refine ⟨front ++ 'Σ' :: rest ++ ['a'], (List.prefix_append _ _).isInfix, ?_⟩
    have hsame := lowerBefore_before_sigma false front (rest ++ ['a']) rest
    have hsame' := lowerBefore_of_allIgnorable hrest true true ['a'] []
    apply not_infix_of_count_lt (c := 'ς')
    rw [lower_char, lower_char, lowerFrom_eq_lowerBefore, lowerFrom_eq_lowerBefore, lowerBefore_append,
      lowerBefore_letter, lowerBefore_sigma, lowerBefore_sigma, hfront, List.append_nil,
      List.append_nil, startsCased_append_letter hrest, startsCased_of_allIgnorable hrest, hsame,
      hsame']
    simp [lowerBefore]

end Agenda.Text
