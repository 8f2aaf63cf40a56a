import Agenda.Text.Blank
import Mathlib

/-!
Trimming splits a text into outer blanks and a core that neither starts nor ends with a blank.
Everything that later proofs use of `trim` follows from that split and from its uniqueness.
-/

namespace Agenda.Text

section

variable {α : Type} [Alphabet α]

/-- Only blanks, or nothing. -/
def AllBlank (t : List α) : Prop := ∀ c ∈ t, isBlank c = true

/-- A text that neither starts nor ends with a blank. -/
structure IsTight (t : List α) : Prop where
  head : ∀ c rest, t = c :: rest → isBlank c = false
  last : ∀ front c, t = front ++ [c] → isBlank c = false

theorem isBlankText_iff (t : List α) : isBlankText t = true ↔ AllBlank t := by
  simp [isBlankText, AllBlank]

theorem AllBlank.nil : AllBlank ([] : List α) := by
  intro c hc
  cases hc

theorem AllBlank.append {a b : List α} (ha : AllBlank a) (hb : AllBlank b) :
    AllBlank (a ++ b) := by
  intro c hc
  rcases List.mem_append.mp hc with h | h
  · exact ha c h
  · exact hb c h

theorem trimStart_allBlank_append {a : List α} (ha : AllBlank a) (t : List α) :
    trimStart (a ++ t) = trimStart t :=
  List.dropWhile_append_of_pos ha

theorem trimEnd_append_allBlank {b : List α} (hb : AllBlank b) (t : List α) :
    trimEnd (t ++ b) = trimEnd t := by
  have hrev : ∀ c ∈ b.reverse, isBlank c = true := by
    intro c hc
    exact hb c (List.mem_reverse.mp hc)
  unfold trimEnd
  rw [List.reverse_append, List.dropWhile_append_of_pos hrev]

theorem trimStart_of_head {t : List α} (h : ∀ c rest, t = c :: rest → isBlank c = false) :
    trimStart t = t := by
  cases t with
  | nil => rfl
  | cons c rest =>
      have hc := h c rest rfl
      simp [trimStart, hc]

theorem trimEnd_of_last {t : List α} (h : ∀ front c, t = front ++ [c] → isBlank c = false) :
    trimEnd t = t := by
  rcases List.eq_nil_or_concat' t with rfl | ⟨front, c, rfl⟩
  · rfl
  · have hc := h front c (by simp)
    simp [trimEnd, hc]

/-- A blank-free code point stops the trimming in front of it. -/
theorem trimStart_append_cons {c : α} (hc : isBlank c = false) (t rest : List α) :
    trimStart (t ++ c :: rest) = trimStart t ++ c :: rest := by
  unfold trimStart
  rw [List.dropWhile_append]
  by_cases hempty : t.dropWhile isBlank = []
  · simp [hempty, hc]
  · simp [hempty]

theorem head_of_dropWhile {β : Type} {p : β → Bool} {t rest : List β} {c : β}
    (h : t.dropWhile p = c :: rest) : p c = false := by
  have hhead := List.head?_dropWhile_not p t
  rw [h] at hhead
  exact hhead

/-- What trimming takes from the start is a run of blanks, and none is left behind it. -/
theorem trimStart_split (t : List α) :
    ∃ a, AllBlank a ∧ t = a ++ trimStart t ∧
      ∀ c rest, trimStart t = c :: rest → isBlank c = false := by
  refine ⟨t.takeWhile isBlank, ?_, ?_, ?_⟩
  · intro c hc
    exact List.mem_takeWhile_imp hc
  · exact (List.takeWhile_append_dropWhile).symm
  · intro c rest h
    exact head_of_dropWhile h

theorem trimEnd_split (t : List α) :
    ∃ b, AllBlank b ∧ t = trimEnd t ++ b ∧
      ∀ front c, trimEnd t = front ++ [c] → isBlank c = false := by
  refine ⟨(t.reverse.takeWhile isBlank).reverse, ?_, ?_, ?_⟩
  · intro c hc
    exact List.mem_takeWhile_imp (List.mem_reverse.mp hc)
  · rw [trimEnd, ← List.reverse_append, List.takeWhile_append_dropWhile, List.reverse_reverse]
  · intro front c h
    have hrev : t.reverse.dropWhile isBlank = c :: front.reverse := by
      simpa [trimEnd] using congrArg List.reverse h
    exact head_of_dropWhile hrev

theorem IsTight.nil : IsTight ([] : List α) := by
  constructor
  · intro c rest h
    cases h
  · intro front c h
    simp at h

/-- Blanks around a tight text are exactly what trimming takes away. -/
theorem trim_of_split {a core b : List α} (ha : AllBlank a) (hcore : IsTight core)
    (hb : AllBlank b) : trim (a ++ core ++ b) = core := by
  unfold trim
  rw [List.append_assoc, trimStart_allBlank_append ha]
  cases hc : core with
  | nil =>
      have hempty : trimStart b = [] := by
        simpa [trimStart, AllBlank] using hb
      simp [hempty, trimEnd]
  | cons c rest =>
      rw [hc] at hcore
      have hstart : trimStart (c :: rest ++ b) = c :: rest ++ b := by
        apply trimStart_of_head
        intro d more h
        exact hcore.head d rest (by simpa using (List.cons.inj h).1)
      rw [hstart, trimEnd_append_allBlank hb]
      exact trimEnd_of_last hcore.last

/-- Every text is a tight core between blanks, and the core is the trimmed text. -/
theorem trim_split (t : List α) :
    ∃ a b, AllBlank a ∧ AllBlank b ∧ IsTight (trim t) ∧ t = a ++ trim t ++ b := by
  obtain ⟨a, ha, ht, hhead⟩ := trimStart_split t
  obtain ⟨b, hb, hbody, hlast⟩ := trimEnd_split (trimStart t)
  refine ⟨a, b, ha, hb, ⟨?_, hlast⟩, ?_⟩
  · intro c rest h
    apply hhead c (rest ++ b)
    rw [hbody, show trimEnd (trimStart t) = c :: rest from h]
    rfl
  · rw [trim, List.append_assoc, ← hbody]
    exact ht

theorem length_trim_le (t : List α) : (trim t).length ≤ t.length := by
  obtain ⟨a, b, _, _, _, hsplit⟩ := trim_split t
  have hlength := congrArg List.length hsplit
  rw [List.length_append, List.length_append] at hlength
  omega

theorem isTight_trim (t : List α) : IsTight (trim t) := by
  obtain ⟨_, _, _, _, h, _⟩ := trim_split t
  exact h

theorem trim_of_isTight {t : List α} (h : IsTight t) : trim t = t := by
  simpa using trim_of_split AllBlank.nil h AllBlank.nil

/-- Whether a text is tight is up to the blanks among its ends. -/
theorem IsTight.of_ends {s t : List α} (h : IsTight t)
    (hhead : s.head?.map isBlank = t.head?.map isBlank)
    (hlast : s.getLast?.map isBlank = t.getLast?.map isBlank) : IsTight s := by
  constructor
  · rintro c rest rfl
    obtain ⟨d, hd, heq⟩ := Option.map_eq_some_iff.mp hhead.symm
    obtain ⟨more, rfl⟩ := List.head?_eq_some_iff.mp hd
    exact heq.symm.trans (h.head d more rfl)
  · rintro front c rfl
    rw [List.getLast?_concat] at hlast
    obtain ⟨d, hd, heq⟩ := Option.map_eq_some_iff.mp hlast.symm
    obtain ⟨more, rfl⟩ := List.getLast?_eq_some_iff.mp hd
    exact heq.symm.trans (h.last more d rfl)

/-- A text that has no blank at either end is its own trim. -/
theorem trim_of_ends {t : List α} (hhead : ∀ c ∈ t.head?, isBlank c = false)
    (hlast : ∀ c ∈ t.getLast?, isBlank c = false) : trim t = t := by
  apply trim_of_isTight
  constructor
  · rintro c rest rfl
    exact hhead c rfl
  · rintro front c rfl
    exact hlast c (by simp)

theorem trim_trim (t : List α) : trim (trim t) = trim t :=
  trim_of_isTight (isTight_trim t)

theorem trim_allBlank_append {a : List α} (ha : AllBlank a) (t : List α) :
    trim (a ++ t) = trim t := by
  unfold trim
  rw [trimStart_allBlank_append ha]

theorem trim_append_allBlank {b : List α} (hb : AllBlank b) (t : List α) :
    trim (t ++ b) = trim t := by
  obtain ⟨a, b', ha, hb', htight, ht⟩ := trim_split t
  conv_lhs => rw [ht, List.append_assoc]
  exact trim_of_split ha htight (hb'.append hb)

/-- What a trimmed text ends with is trimmed at its end, too. -/
theorem trimEnd_of_suffix {t rest : List α} (h : rest <:+ trimEnd t) : trimEnd rest = rest := by
  obtain ⟨_, _, _, hlast⟩ := trimEnd_split t
  obtain ⟨front, hfront⟩ := h
  apply trimEnd_of_last
  intro init c hrest
  apply hlast (front ++ init) c
  rw [← hfront, hrest, List.append_assoc]

/-- The two sides can be trimmed in either order. -/
theorem trimStart_trimEnd (t : List α) : trimStart (trimEnd t) = trim t := by
  obtain ⟨b, hb, hbody, _⟩ := trimEnd_split t
  have hsuffix : trimStart (trimEnd t) <:+ trimEnd t := List.dropWhile_suffix _
  calc trimStart (trimEnd t) = trim (trimEnd t) := (trimEnd_of_suffix hsuffix).symm
    _ = trim (trimEnd t ++ b) := (trim_append_allBlank hb _).symm
    _ = trim t := by rw [← hbody]

theorem trim_eq_nil_iff (t : List α) : trim t = [] ↔ AllBlank t := by
  constructor
  · intro h
    obtain ⟨a, b, ha, hb, _, ht⟩ := trim_split t
    rw [ht, h, List.append_nil]
    exact ha.append hb
  · intro h
    simpa using trim_of_split h IsTight.nil AllBlank.nil

theorem mem_of_mem_trim {t : List α} {c : α} (h : c ∈ trim t) : c ∈ t := by
  obtain ⟨a, b, _, _, _, ht⟩ := trim_split t
  rw [ht]
  simp [h]

end

private theorem wordsFrom_of_not_isBlank {t : Text} (h : ∀ c ∈ t, isBlank c = false) :
    wordsFrom true t = [t] := by
  induction t with
  | nil => rfl
  | cons c rest ih =>
      have hrest := ih fun d hd => h d (List.mem_cons_of_mem c hd)
      simp [wordsFrom, h c List.mem_cons_self, hrest]

/-- A text without blanks is one word. -/
theorem words_of_not_isBlank {t : Text} (hne : t ≠ []) (h : ∀ c ∈ t, isBlank c = false) :
    words t = [t] := by
  obtain ⟨c, rest, rfl⟩ := List.exists_cons_of_ne_nil hne
  have hrest := wordsFrom_of_not_isBlank fun d hd => h d (List.mem_cons_of_mem c hd)
  simp [words, wordsFrom, h c List.mem_cons_self, hrest]

end Agenda.Text
