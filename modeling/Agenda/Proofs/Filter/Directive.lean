import Agenda.Filter.Token
import Agenda.Proofs.Text.Lower

/-!
The grammar of conditions in a token, said without the scanner: a bracketed condition is an
opening bracket, a kind, a colon, a body without closing brackets, and a closing bracket. The
scanner reads exactly these texts, and from each one the kind as it is written and the trimmed
body.
-/

namespace Agenda.Filter

open Text

/-- A word that agrees with the name of a kind, letter by letter and in any case. -/
def Spells (kind : FilterKind) (word : Text) : Prop :=
  List.Forall₂ (fun expected c => agrees expected c = true) kind.name word

/-- A bracketed condition with its kind, the word that spells the kind, and the body. -/
def IsDirective (kind : FilterKind) (word body t : Text) : Prop :=
  Spells kind word ∧ ']' ∉ body ∧ ∃ lead gap, AllBlank lead ∧ AllBlank gap ∧
    t = '[' :: lead ++ word ++ gap ++ ':' :: body ++ [']']

/-- A bracketed condition stands somewhere in the text. -/
def HoldsDirective (t : Text) : Prop :=
  ∃ kind word body d, IsDirective kind word body d ∧ d <:+: t

/-- A bare condition: a kind, a colon and a word, with blanks around the colon only. -/
def IsBare (kind : FilterKind) (word value t : Text) : Prop :=
  Spells kind word ∧ value ≠ [] ∧ (∀ c ∈ value, isBlank c = false) ∧
    ∃ gap lead, AllBlank gap ∧ AllBlank lead ∧ t = word ++ gap ++ ':' :: lead ++ value

private theorem not_isBlank_of_agrees {expected c : Char} (hexpected : isBlank expected = false)
    (h : agrees expected c = true) : isBlank c = false := by
  simp only [agrees, Bool.or_eq_true, Bool.and_eq_true, beq_iff_eq] at h
  rcases h with (hfold | ⟨_, rfl⟩) | ⟨_, rfl⟩
  · by_contra hblank
    rw [Bool.not_eq_false] at hblank
    rw [foldChar_of_isBlank hblank] at hfold
    rw [hfold, hexpected] at hblank
    cases hblank
  · decide
  · decide

private theorem nameAt?_sound {name s word rest : Text} (h : nameAt? name s = some (word, rest)) :
    s = word ++ rest ∧ List.Forall₂ (fun expected c => agrees expected c = true) name word := by
  induction name generalizing s word with
  | nil =>
      simp only [nameAt?, Option.some.injEq, Prod.mk.injEq] at h
      obtain ⟨rfl, rfl⟩ := h
      exact ⟨rfl, .nil⟩
  | cons expected more ih =>
      cases s with
      | nil => cases h
      | cons c s =>
          rw [nameAt?, Alphabet.char?_char] at h
          dsimp only at h
          split at h
          · next hagrees =>
              obtain ⟨⟨found, left⟩, hread, heq⟩ := Option.map_eq_some_iff.mp h
              simp only [Prod.mk.injEq] at heq
              obtain ⟨rfl, rfl⟩ := heq
              obtain ⟨hs, hall⟩ := ih hread
              exact ⟨by rw [hs]; rfl, .cons hagrees hall⟩
          · cases h

private theorem nameAt?_complete {name word : Text}
    (h : List.Forall₂ (fun expected c => agrees expected c = true) name word) (rest : Text) :
    nameAt? name (word ++ rest) = some (word, rest) := by
  induction h with
  | nil => rfl
  | cons hagrees _ ih => simp [nameAt?, hagrees, ih]

private theorem nameAt?_of_head {expected c : Char} (h : agrees expected c = false)
    (more s : Text) : nameAt? (expected :: more) (c :: s) = none := by
  simp [nameAt?, h]

/-- The first letters of the kinds tell them apart, also in their other spellings. -/
private theorem agrees_apart {a b c : Char} (hapart : a ≠ b)
    (ha : a ∈ ['d', 'p', 's']) (hb : b ∈ ['d', 'p', 's']) (h : agrees a c = true) :
    agrees b c = false := by
  by_contra hne
  rw [Bool.not_eq_false] at hne
  simp only [agrees, Bool.or_eq_true, Bool.and_eq_true, beq_iff_eq] at h hne
  simp only [List.mem_cons, List.not_mem_nil, or_false] at ha hb
  have hlong : foldChar '\u017f' = '\u017f' := by decide
  rcases h with (hfold | ⟨rfl, _⟩) | ⟨rfl, rfl⟩
  · rcases hne with (hfold' | ⟨rfl, _⟩) | ⟨rfl, rfl⟩
    · exact hapart (hfold.symm.trans hfold')
    · revert hb
      decide
    · rw [hlong] at hfold
      subst hfold
      revert ha
      decide
  · revert ha
    decide
  · rcases hne with (hfold' | ⟨rfl, _⟩) | ⟨rfl, _⟩
    · rw [hlong] at hfold'
      subst hfold'
      revert hb
      decide
    · revert hb
      decide
    · exact hapart rfl

private theorem name_date : FilterKind.date.name = 'd' :: ['a', 't', 'e'] := rfl

private theorem name_priority :
    FilterKind.priority.name = 'p' :: ['r', 'i', 'o', 'r', 'i', 't', 'y'] := rfl

private theorem name_status : FilterKind.status.name = 's' :: ['t', 'a', 't', 'u', 's'] := rfl

private theorem name_not_isBlank (kind : FilterKind) : ∀ c ∈ kind.name, isBlank c = false := by
  have hall : (kind.name.all fun c => !isBlank c) = true := by
    cases kind <;> decide
  simpa using hall

/-- A spelled kind has no blanks. -/
theorem Spells.not_isBlank {kind : FilterKind} {word : Text} (h : Spells kind word) :
    ∀ c ∈ word, isBlank c = false := by
  intro c hc
  obtain ⟨i, hi, rfl⟩ := List.getElem_of_mem hc
  have hi' : i < kind.name.length := by rwa [h.length_eq]
  exact not_isBlank_of_agrees (name_not_isBlank kind _ (List.getElem_mem hi')) (h.get hi' hi)

/-- A spelled kind starts with a letter, never with a blank. -/
theorem Spells.head {kind : FilterKind} {word : Text} (h : Spells kind word) :
    ∃ c rest, word = c :: rest ∧ isBlank c = false := by
  have hne : word ≠ [] := by
    rintro rfl
    have hlength := h.length_eq
    revert hlength
    cases kind <;> decide
  obtain ⟨c, rest, rfl⟩ := List.exists_cons_of_ne_nil hne
  exact ⟨c, rest, rfl, h.not_isBlank c List.mem_cons_self⟩

private theorem findKind_complete {kind : FilterKind} {word : Text} (h : Spells kind word)
    (rest : Text) : (FilterKind.all.findSome? fun other => nameAt? other.name (word ++ rest)) =
      some (word, rest) := by
  have hread := nameAt?_complete h rest
  cases kind with
  | date => simp [FilterKind.all, hread]
  | priority =>
      rw [Spells, name_priority] at h
      cases h with
      | cons hagrees _ =>
          have hdate := agrees_apart (b := 'd') (by decide) (by decide) (by decide) hagrees
          simp only [FilterKind.all, List.findSome?_cons]
          rw [name_date, List.cons_append, nameAt?_of_head hdate, ← List.cons_append, hread]
  | status =>
      rw [Spells, name_status] at h
      cases h with
      | cons hagrees _ =>
          have hdate := agrees_apart (b := 'd') (by decide) (by decide) (by decide) hagrees
          have hpriority := agrees_apart (b := 'p') (by decide) (by decide) (by decide) hagrees
          simp only [FilterKind.all, List.findSome?_cons]
          rw [name_date, name_priority, List.cons_append, nameAt?_of_head hdate,
            nameAt?_of_head hpriority, ← List.cons_append, hread]

theorem kindAt?_complete {kind : FilterKind} {word gap : Text} (hword : Spells kind word)
    (hgap : AllBlank gap) (rest : Text) :
    kindAt? (word ++ (gap ++ ':' :: rest)) = some (word, trimStart rest) := by
  have hcolon : trimStart (gap ++ ':' :: rest) = ':' :: rest := by
    rw [trimStart_allBlank_append hgap]
    simp [trimStart, show isBlank ':' = false by decide]
  have hbehind : Alphabet.behind? ':' (':' :: rest) = some rest :=
    Alphabet.behind?_eq_some_iff.mpr rfl
  simp [kindAt?, findKind_complete hword, hcolon, hbehind]

theorem kindAt?_sound {s word rest : Text} (h : kindAt? s = some (word, rest)) :
    ∃ kind gap lead, Spells kind word ∧ AllBlank gap ∧ AllBlank lead ∧
      s = word ++ (gap ++ ':' :: (lead ++ rest)) ∧ trimStart rest = rest := by
  simp only [kindAt?, Option.bind_eq_bind, Option.bind_eq_some_iff, Prod.exists] at h
  obtain ⟨found, left, hfind, after, hcolon, heq⟩ := h
  obtain ⟨kind, _, hname⟩ := List.exists_of_findSome?_eq_some hfind
  obtain ⟨hs, hspells⟩ := nameAt?_sound hname
  obtain ⟨gap, hgap, hleft, _⟩ := trimStart_split left
  obtain ⟨rfl, rfl⟩ := Prod.mk.inj (Option.some.inj heq)
  obtain ⟨lead, hlead, hrest, hhead⟩ := trimStart_split after
  refine ⟨kind, gap, lead, hspells, hgap, hlead, ?_, trimStart_of_head hhead⟩
  have hafter : trimStart left = ':' :: after := Alphabet.behind?_eq_some_iff.mp hcolon
  rw [← hrest, ← hafter, ← hleft]
  exact hs

theorem isOpen_char {c : Char} : isOpen c = true ↔ c ≠ ']' := by
  rw [isOpen, Alphabet.char?_char, bne_iff_ne, ne_eq, Option.some.injEq]

private theorem takeWhile_body {body : Text} (h : ']' ∉ body) (rest : Text) :
    (body ++ ']' :: rest).takeWhile isOpen = body ∧
      (body ++ ']' :: rest).dropWhile isOpen = ']' :: rest := by
  have hbody : ∀ c ∈ body, isOpen c = true := by
    intro c hc
    rw [isOpen_char]
    rintro rfl
    exact h hc
  constructor
  · rw [List.takeWhile_append_of_pos hbody, List.takeWhile_cons_of_neg (by decide), List.append_nil]
  · rw [List.dropWhile_append_of_pos hbody, List.dropWhile_cons_of_neg (by decide)]

/-- A text with a closing bracket is split at the first one. -/
private theorem split_at_bracket {s after : Text} (h : s.dropWhile isOpen = ']' :: after) :
    ∃ inner, s.takeWhile isOpen = inner ∧ ']' ∉ inner ∧ s = inner ++ ']' :: after := by
  refine ⟨_, rfl, ?_, ?_⟩
  · intro hmem
    exact absurd (List.mem_takeWhile_imp hmem) (by decide)
  · rw [← h]
    exact (List.takeWhile_append_dropWhile).symm

/-- The start of a text without blanks in front has none in front either. -/
private theorem trimStart_of_append {t rest : Text} (h : trimStart (t ++ rest) = t ++ rest) :
    trimStart t = t := by
  obtain ⟨_, _, _, hhead⟩ := trimStart_split (t ++ rest)
  rw [h] at hhead
  apply trimStart_of_head
  intro c more hc
  exact hhead c (more ++ rest) (by rw [hc]; rfl)

/-- The scanner reads a bracketed condition whatever follows it. -/
theorem bracketAt?_complete {kind : FilterKind} {word body d : Text}
    (h : IsDirective kind word body d) (rest : Text) :
    bracketAt? (d ++ rest) = some (word, trim body, d.length) := by
  obtain ⟨hword, hbody, lead, gap, hlead, hgap, rfl⟩ := h
  obtain ⟨first, more, hfirst, hblank⟩ := hword.head
  have hshape : '[' :: lead ++ word ++ gap ++ ':' :: body ++ [']'] ++ rest =
      '[' :: (lead ++ (word ++ (gap ++ ':' :: (body ++ ']' :: rest)))) := by simp
  have hkind : kindAt? (trimStart (lead ++ (word ++ (gap ++ ':' :: (body ++ ']' :: rest))))) =
      some (word, trimStart body ++ ']' :: rest) := by
    have hstart : ∀ tail : Text, trimStart (word ++ tail) = word ++ tail := by
      intro tail
      rw [hfirst]
      exact trimStart_append_cons hblank [] (more ++ tail)
    rw [trimStart_allBlank_append hlead, hstart, kindAt?_complete hword hgap,
      trimStart_append_cons (by decide)]
  have hvalue : ']' ∉ trimStart body := fun hmem => hbody (List.dropWhile_subset _ hmem)
  obtain ⟨htake, hdrop⟩ := takeWhile_body hvalue rest
  have hopen (tail : Text) : Alphabet.behind? '[' ('[' :: tail) = some tail :=
    Alphabet.behind?_eq_some_iff.mpr rfl
  have hclose : Alphabet.behind? ']' (']' :: rest) = some rest :=
    Alphabet.behind?_eq_some_iff.mpr rfl
  rw [hshape, bracketAt?, hopen]
  simp only [Option.bind_eq_bind, Option.bind_some, hkind, htake, hdrop, hclose, trim]
  simp
  omega

/-- What the scanner reads in brackets is a bracketed condition. -/
theorem bracketAt?_sound {s word value : Text} {n : Nat}
    (h : bracketAt? s = some (word, value, n)) :
    ∃ kind body d rest, IsDirective kind word body d ∧ value = trim body ∧ n = d.length ∧
      s = d ++ rest := by
  simp only [bracketAt?, Option.bind_eq_bind, Option.bind_eq_some_iff, Prod.exists] at h
  obtain ⟨tail, hstart, found, left, hkind, after, hclose, heq⟩ := h
  obtain rfl : s = '[' :: tail := Alphabet.behind?_eq_some_iff.mp hstart
  have hdrop : left.dropWhile isOpen = ']' :: after := Alphabet.behind?_eq_some_iff.mp hclose
  simp only [Option.pure_def, Option.some.injEq, Prod.mk.injEq] at heq
  obtain ⟨rfl, rfl, rfl⟩ := heq
  obtain ⟨kind, gap, lead, hspells, hgap, hlead, htail, hleft⟩ := kindAt?_sound hkind
  obtain ⟨front, hfront, hsplit, _⟩ := trimStart_split tail
  obtain ⟨inner, hinner, hopen, hparts⟩ := split_at_bracket hdrop
  have hinnerStart : trimStart inner = inner := by
    rw [hparts] at hleft
    exact trimStart_of_append hleft
  have hs : '[' :: tail =
      ('[' :: front ++ found ++ gap ++ ':' :: (lead ++ inner) ++ [']']) ++ after := by
    rw [hsplit, htail, hparts]
    simp
  refine ⟨kind, lead ++ inner, _, after, ⟨hspells, ?_, front, gap, hfront, hgap, rfl⟩, ?_, ?_, hs⟩
  · intro hmem
    rcases List.mem_append.mp hmem with hblank | hbody
    · have := hlead _ hblank
      revert this
      decide
    · exact hopen hbody
  · rw [hinner, trim_allBlank_append hlead, trim, hinnerStart]
  · have hlength := congrArg List.length hs
    simp only [List.length_append, List.length_cons] at hlength ⊢
    omega

end Agenda.Filter
