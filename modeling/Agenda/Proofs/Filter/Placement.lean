import Agenda.Proofs.Filter.Refusal
import Agenda.Proofs.Text.Spelling

/-!
Where conditions may stand in a line. Between texts without opening brackets every bracketed
condition is read as it stands, in order, and the texts that are left of the line are read as if each
condition were a space.
-/

namespace Agenda.Filter

open Text

/-- The word is the name of the kind, with some letters capital. -/
def Names (kind : FilterKind) (word : Text) : Prop := word.map Char.toLower = kind.name

private theorem isSmall_name (kind : FilterKind) : IsSmall kind.name := by
  cases kind <;> decide

private theorem agrees_of_lowerChar {expected c : Char} (h : lowerChar c = [expected]) :
    agrees expected c = true := by
  have hdotted : c ≠ '\u0130' := by
    rintro rfl
    cases h
  rw [lowerChar, if_neg hdotted, List.singleton_inj] at h
  rw [agrees, foldChar, if_neg hdotted, h, beq_self_eq_true, Bool.true_or, Bool.true_or]

theorem Names.spells {kind : FilterKind} {word : Text} (h : Names kind word) :
    Spells kind word := by
  have hlower : lower word = kind.name := (lower_eq_iff_of_small (isSmall_name kind)).mpr h
  rw [lower_eq_iff_of_plain (isSmall_name kind).2.1] at hlower
  exact hlower.imp fun _ _ => agrees_of_lowerChar

/-- Without a variant among its letters, a word spells a kind only in the case of its letters. -/
theorem names_iff_spells {kind : FilterKind} {word : Text} (hvariant : ¬ HasVariant word) :
    Names kind word ↔ Spells kind word := by
  refine ⟨Names.spells, fun h => ?_⟩
  exact (lower_eq_iff_of_small (isSmall_name kind)).mp (lower_of_spells h hvariant)

theorem Names.not_hasVariant {kind : FilterKind} {word : Text} (h : Names kind word) :
    ¬ HasVariant word := by
  intro hvariant
  exact lower_ne_name hvariant kind ((lower_eq_iff_of_small (isSmall_name kind)).mpr h)

/-- A condition as it is written in brackets: a kind with blanks around it, a colon, and a body
that the closing bracket ends. -/
structure Written where
  kind : FilterKind
  lead : Text
  word : Text
  gap : Text
  body : Text
  lead_blank : AllBlank lead
  word_names : Names kind word
  gap_blank : AllBlank gap
  body_open : ']' ∉ body

namespace Written

def text (w : Written) : Text := '[' :: w.lead ++ w.word ++ w.gap ++ ':' :: w.body ++ [']']

def condition (w : Written) : Predicate := .named w.kind (lower (trim w.body))

def piece (w : Written) : Piece := .directive w.word (trim w.body)

theorem isDirective (w : Written) : IsDirective w.kind w.word w.body w.text :=
  ⟨w.word_names.spells, w.body_open, w.lead, w.gap, w.lead_blank, w.gap_blank, rfl⟩

theorem ofDirective_eq (w : Written) :
    Predicate.ofDirective w.word (trim w.body) = .ok w.condition := by
  rw [ofDirective_of_spells w.word_names.spells, if_neg w.word_names.not_hasVariant, trim_trim]
  rfl

end Written

/-- A line with conditions in it: a text, and then each condition with the text behind it. -/
structure Line where
  start : Text
  more : List (Written × Text)
  start_plain : '[' ∉ start
  more_plain : ∀ part ∈ more, '[' ∉ part.2

namespace Line

def token (line : Line) : Text := line.start ++ line.more.flatMap fun part => part.1.text ++ part.2

/-- What is left of the line, with a space in place of each condition. -/
def rest (line : Line) : Text := line.start ++ line.more.flatMap fun part => ' ' :: part.2

def conditions (line : Line) : List Predicate := line.more.map fun part => part.1.condition

end Line

/-- No condition starts in a text without opening brackets. -/
theorem pieces_plain_append {t : Text} (h : '[' ∉ t) (rest : Text) :
    pieces (t ++ rest) = t.map .char ++ pieces rest := by
  induction t with
  | nil => rfl
  | cons c s ih =>
      rw [List.mem_cons, not_or] at h
      rw [List.cons_append]
      rcases pieces_step c (s ++ rest) with ⟨_, _, _, d, behind, hd, hsplit, _⟩ | ⟨hchar, _⟩
      · obtain ⟨_, _, lead, gap, _, _, rfl⟩ := hd
        exact absurd (List.cons.inj hsplit).1.symm h.1
      · rw [hchar, ih h.2]
        rfl

private theorem pieces_parts {parts : List (Written × Text)}
    (h : ∀ part ∈ parts, '[' ∉ part.2) :
    pieces (parts.flatMap fun part => part.1.text ++ part.2) =
      parts.flatMap fun part => part.1.piece :: part.2.map .char := by
  induction parts with
  | nil => rfl
  | cons part more ih =>
      obtain ⟨hpart, hmore⟩ := List.forall_mem_cons.mp h
      rw [List.flatMap_cons, List.flatMap_cons, List.append_assoc,
        pieces_directive_append part.1.isDirective, pieces_plain_append hpart, ih hmore]
      rfl

/-- The line is read piece by piece as it is put together. -/
theorem Line.pieces_token (line : Line) : pieces line.token =
    line.start.map .char ++ line.more.flatMap fun part => part.1.piece :: part.2.map .char := by
  rw [token, pieces_plain_append line.start_plain, pieces_parts line.more_plain]

theorem Line.remnants_token (line : Line) : (pieces line.token).map Piece.remnant = line.rest := by
  rw [pieces_token, List.map_append, remnant_map_char, List.map_flatMap, rest]
  simp only [List.map_cons, remnant_map_char]
  rfl

private theorem directives_map_char_append (t : Text) (ps : List Piece) :
    directives (t.map .char ++ ps) = directives ps := by
  induction t with
  | nil => rfl
  | cons c rest ih => exact ih

theorem Line.directives_token (line : Line) :
    directives (pieces line.token) = .ok line.conditions := by
  rw [pieces_token, directives_map_char_append, conditions]
  induction line.more with
  | nil => rfl
  | cons part more ih =>
      rw [List.flatMap_cons, List.cons_append, Written.piece, directives, part.1.ofDirective_eq,
        directives_map_char_append, ih]
      rfl

/-- A text is the condition of a kind and a word without brackets: the kind, a colon with blanks
around it, and the word. -/
def IsPlainBare (kind : FilterKind) (value t : Text) : Prop :=
  ∃ word gap lead, Names kind word ∧ AllBlank gap ∧ AllBlank lead ∧
    (value ≠ [] ∧ ∀ c ∈ value, isBlank c = false) ∧ t = word ++ gap ++ ':' :: lead ++ value

/-- What the rest of a line asks for: nothing if there is none, a condition if it is one without
brackets, and otherwise to search for it. -/
inductive AsksFor (rest : Text) : List Predicate → Prop
  | nothing (hnil : rest = []) : AsksFor rest []
  | bare {kind : FilterKind} {value : Text} (hbare : IsPlainBare kind value rest) :
      AsksFor rest [.named kind (lower value)]
  | search (hne : rest ≠ []) (hnot : ∀ kind value, ¬ IsPlainBare kind value rest) :
      AsksFor rest [.text rest]

theorem exists_asksFor (rest : Text) : ∃ last, AsksFor rest last := by
  by_cases hnil : rest = []
  · exact ⟨_, .nothing hnil⟩
  by_cases hbare : ∃ kind value, IsPlainBare kind value rest
  · obtain ⟨kind, value, hbare⟩ := hbare
    exact ⟨_, .bare hbare⟩
  · exact ⟨_, .search hnil fun kind value h => hbare ⟨kind, value, h⟩⟩

private theorem isBare_of_names {kind : FilterKind} {word gap lead value : Text}
    (hnames : Names kind word) (hgap : AllBlank gap) (hlead : AllBlank lead)
    (hvalue : value ≠ [] ∧ ∀ c ∈ value, isBlank c = false) :
    IsBare kind word value (word ++ gap ++ ':' :: lead ++ value) :=
  ⟨hnames.spells, hvalue.1, hvalue.2, gap, lead, hgap, hlead, rfl⟩

private theorem IsBare.isPlainBare {kind : FilterKind} {word value t : Text}
    (h : IsBare kind word value t) (hvariant : ¬ HasVariant t) : IsPlainBare kind value t := by
  obtain ⟨hspells, hne, hvalue, gap, lead, hgap, hlead, rfl⟩ := h
  have hword : ¬ HasVariant word := fun ⟨c, hc, hodd⟩ => hvariant ⟨c, by simp [hc], hodd⟩
  exact ⟨word, gap, lead, (names_iff_spells hword).mpr hspells, hgap, hlead, ⟨hne, hvalue⟩, rfl⟩

private theorem trim_of_not_isBlank {value : Text} (h : ∀ c ∈ value, isBlank c = false) :
    trim value = value :=
  trim_of_ends (fun c hc => h c (List.mem_of_mem_head? hc))
    fun c hc => h c (List.mem_of_mem_getLast? hc)

/-- The rest of a line is read as what it asks for. -/
theorem remainder_of_asksFor {rest : Text} (hvariant : ¬ HasVariant rest) {last : List Predicate}
    (h : AsksFor rest last) : remainder rest = .ok last := by
  unfold remainder
  cases h with
  | nothing hnil => rw [if_pos (List.isEmpty_iff.mpr hnil)]; rfl
  | bare hbare =>
      obtain ⟨word, gap, lead, hnames, hgap, hlead, hvalue, rfl⟩ := hbare
      rw [if_neg (by simp), bare?_complete (isBare_of_names hnames hgap hlead hvalue)]
      dsimp only
      rw [ofDirective_of_spells hnames.spells, if_neg hnames.not_hasVariant,
        trim_of_not_isBlank hvalue.2]
      rfl
  | search hne hnot =>
      rw [if_neg (mt List.isEmpty_iff.mp hne)]
      cases hread : bare? rest with
      | none => rfl
      | some found =>
          obtain ⟨kind, hbare⟩ := bare?_sound hread
          exact absurd (hbare.isPlainBare hvariant) (hnot kind found.2)

/-- A space is no variant, so the rest of a line has none that the line has not. -/
theorem Line.not_hasVariant_rest {line : Line} (h : ¬ HasVariant line.token) :
    ¬ HasVariant (trim line.rest) := by
  rintro ⟨c, hc, hodd⟩
  have hspace : c ≠ ' ' := by
    rintro rfl
    exact absurd hodd (by decide)
  have hmem : c ∈ line.rest := mem_of_mem_trim hc
  refine h ⟨c, ?_, hodd⟩
  simp only [rest, token, List.mem_append, List.mem_flatMap, List.mem_cons, hspace,
    false_or] at hmem ⊢
  rcases hmem with hstart | ⟨part, hpart, hbehind⟩
  · exact Or.inl hstart
  · exact Or.inr ⟨part, hpart, Or.inr hbehind⟩

/-- Conditions may stand anywhere in a line. If the line has none of the three letters that are taken
for others, it is read as the conditions in order, each with the lowercase of its trimmed body, and
then what the trimmed rest asks for. -/
theorem parse_line (line : Line) (hvariant : ¬ HasVariant line.token) :
    (∃ last, AsksFor (trim line.rest) last) ∧
      ∀ last, AsksFor (trim line.rest) last →
        parse line.token = .ok ⟨line.conditions ++ last⟩ := by
  refine ⟨exists_asksFor _, fun last hlast => ?_⟩
  rw [parse_eq, line.directives_token, line.remnants_token,
    remainder_of_asksFor (Line.not_hasVariant_rest hvariant) hlast]
  rfl

/-- A body may hold an opening bracket, and where a condition is taken out of the line, the rest can
be a condition without brackets. -/
theorem parse_line_around :
    parse "[ Date : Today ]Status [priority:[x]: DONE".toList =
      .ok ⟨[.named .date "today".toList, .named .priority "[x".toList,
        .named .status "done".toList]⟩ := by
  let today : Written := ⟨.date, [' '], "Date".toList, [' '], " Today ".toList,
    (isBlankText_iff _).mp rfl, rfl, (isBlankText_iff _).mp rfl, by decide⟩
  let level : Written := ⟨.priority, [], "priority".toList, [], "[x".toList, AllBlank.nil, rfl,
    AllBlank.nil, by decide⟩
  let line : Line :=
    ⟨[], [(today, "Status ".toList), (level, ": DONE".toList)], by decide, by decide⟩
  have hvariant : ¬ HasVariant line.token := by
    rw [HasVariant, ← List.any_eq_true]
    decide
  have hvalue : ∀ c ∈ "DONE".toList, isBlank c = false := by
    have hall : ("DONE".toList.all fun c => !isBlank c) = true := rfl
    simpa only [List.all_eq_true, Bool.not_eq_true'] using hall
  have hbare : IsPlainBare .status "DONE".toList (trim line.rest) :=
    ⟨"Status".toList, [' ', ' '], [' '], rfl, (isBlankText_iff _).mp rfl, (isBlankText_iff _).mp rfl,
      ⟨by decide, hvalue⟩, rfl⟩
  refine ((parse_line line hvariant).2 _ (.bare hbare)).trans ?_
  decide +kernel

end Agenda.Filter
