import Agenda.Proofs.Filter.Reading

/-!
Which filters survive being written as a token and read again. The canonical filters are those
whose conditions brackets can hold and whose text, if there is one, is not mistaken for a
condition; the round trip keeps these and no others.
-/

namespace Agenda.Filter

open Text

/-- A text that is read back as a text: not empty, without outer blanks, holding no bracketed
condition, and no bare condition as a whole. -/
structure IsSearch (t : Text) : Prop where
  ne_nil : t ≠ []
  tight : trim t = t
  holds_none : ¬ HoldsDirective t
  not_bare : ¬ ∃ kind word value, IsBare kind word value t

/-- Named conditions that brackets hold as they are, and then at most one text that is read back
as a text. -/
def IsCanonical (f : Filter) : Prop :=
  ∃ (conditions : List (FilterKind × Text)) (search : Option Text),
    f.predicates = conditionsOf conditions ++ search.toList.map .text ∧
      (∀ c ∈ conditions, IsHeld c.2) ∧ ∀ t ∈ search, IsSearch t

/-- The brackets of named conditions. -/
def brackets (conditions : List (FilterKind × Text)) : Text :=
  conditions.flatMap fun c => bracket c.1 c.2

/-- The token of conditions and a text: the brackets, a space if there is something on both sides
of it, and the text. -/
theorem token_of_predicates {f : Filter} {conditions : List (FilterKind × Text)}
    {search : Option Text}
    (h : f.predicates = conditionsOf conditions ++ search.toList.map .text)
    (hsearch : ∀ t ∈ search, t ≠ []) :
    ∃ lead : Text, (lead = [] ∨ lead = [' ']) ∧
      f.token = brackets conditions ++ (lead ++ search.getD []) := by
  have hshape : f.token =
      if !(brackets conditions).isEmpty && !(join [' '] search.toList).isEmpty then
        brackets conditions ++ [' '] ++ join [' '] search.toList
      else if !(brackets conditions).isEmpty then brackets conditions
      else join [' '] search.toList := by
    have hnil : (conditions.filterMap fun _ => (none : Option Text)) = [] :=
      List.filterMap_eq_nil_iff.mpr fun _ _ => rfl
    unfold token
    rw [h, conditionsOf, List.flatMap_append, List.flatMap_map, List.filterMap_append,
      List.filterMap_map]
    cases search with
    | none =>
        simp only [Option.toList_none, List.map_nil, List.flatMap_nil, List.filterMap_nil,
          List.append_nil, Function.comp_def, hnil]
        rfl
    | some t =>
        simp only [Option.toList_some, List.map_cons, List.map_nil, List.flatMap_cons,
          List.flatMap_nil, List.filterMap_cons, List.filterMap_nil, List.append_nil,
          Function.comp_def, hnil, List.nil_append]
        rfl
  rw [hshape]
  cases search with
  | none =>
      refine ⟨[], Or.inl rfl, ?_⟩
      by_cases hnil : brackets conditions = []
      · simp [hnil, join, List.intercalate]
      · simp [hnil, join, List.intercalate]
  | some t =>
      have hne : t ≠ [] := hsearch t rfl
      by_cases hnil : brackets conditions = []
      · exact ⟨[], Or.inl rfl, by simp [hnil, join, List.intercalate]⟩
      · exact ⟨[' '], Or.inr rfl, by simp [hnil, hne, join, List.intercalate]⟩

private theorem spells_name (kind : FilterKind) : Spells kind kind.name := by
  unfold Spells
  have hsmall : (kind.name.all fun c => Nat.ble 0x61 c.toNat && Nat.blt c.toNat 0x80) = true := by
    cases kind <;> decide
  have hself : ∀ c ∈ kind.name, agrees c c = true := by
    intro c hc
    have hc' := List.all_eq_true.mp hsmall c hc
    simp only [Bool.and_eq_true, Nat.ble_eq, Nat.blt_eq] at hc'
    simp [agrees, foldChar_plain hc'.2 (by omega)]
  clear hsmall
  generalize kind.name = name at hself
  induction name with
  | nil => exact .nil
  | cons c rest ih =>
      exact .cons (hself c List.mem_cons_self) (ih fun d hd => hself d (List.mem_cons_of_mem _ hd))

theorem isDirective_bracket (kind : FilterKind) {value : Text} (h : ']' ∉ value) :
    IsDirective kind kind.name value (bracket kind value) :=
  ⟨spells_name kind, h, [], [], AllBlank.nil, AllBlank.nil, by simp [bracket]⟩

/-- Brackets around any value hold a condition, though not of that value if it has a closing
bracket itself. -/
theorem holdsDirective_bracket (kind : FilterKind) (value : Text) :
    HoldsDirective (bracket kind value) := by
  by_cases h : ']' ∈ value
  · obtain ⟨body, rest, hvalue, hbody⟩ := List.eq_append_cons_of_mem h
    refine ⟨kind, kind.name, body, _, isDirective_bracket kind hbody, [], rest ++ [']'], ?_⟩
    simp [bracket, hvalue]
  · exact ⟨kind, kind.name, value, _, isDirective_bracket kind h, List.infix_rfl⟩

/-- Brackets of values that they can hold are read as these conditions, whatever follows. -/
theorem pieces_brackets_append {conditions : List (FilterKind × Text)}
    (h : ∀ c ∈ conditions, ']' ∉ c.2) (rest : Text) :
    pieces (brackets conditions ++ rest) =
      (conditions.map fun c => Piece.directive c.1.name (trim c.2)) ++ pieces rest := by
  induction conditions with
  | nil => rfl
  | cons c more ih =>
      have hc := isDirective_bracket c.1 (h c List.mem_cons_self)
      have hmore := ih fun d hd => h d (List.mem_cons_of_mem _ hd)
      have hsplit : brackets (c :: more) ++ rest =
          bracket c.1 c.2 ++ (brackets more ++ rest) := by
        simp [brackets]
      rw [hsplit, pieces_directive_append hc, hmore]
      rfl

/-- Brackets of values that they hold as they are come first among the conditions of a line. They
are refused for nothing of their own. -/
theorem directives_brackets {conditions : List (FilterKind × Text)}
    (h : ∀ c ∈ conditions, IsHeld c.2) (ps : List Piece) :
    directives ((conditions.map fun c => Piece.directive c.1.name (trim c.2)) ++ ps) =
      (directives ps).map (conditionsOf conditions ++ ·) := by
  induction conditions with
  | nil => cases hps : directives ps <;> exact hps
  | cons c more ih =>
      have hmore := ih fun d hd => h d (List.mem_cons_of_mem _ hd)
      have hvalue : lower (trim (trim c.2)) = c.2 := by
        rw [trim_trim]
        exact (h c List.mem_cons_self).2.symm
      rw [List.map_cons, List.cons_append, directives, ofDirective_name, hvalue, hmore]
      cases directives ps <;> rfl

theorem remnants_brackets {conditions : List (FilterKind × Text)} :
    AllBlank ((conditions.map fun c => Piece.directive c.1.name (trim c.2)).map
      Piece.remnant) := by
  intro c hc
  simp only [List.map_map, List.mem_map, Function.comp_apply, Piece.remnant] at hc
  obtain ⟨_, _, rfl⟩ := hc
  decide

private theorem allBlank_lead {lead : Text} (h : lead = [] ∨ lead = [' ']) : AllBlank lead := by
  rcases h with rfl | rfl
  · exact AllBlank.nil
  · intro c hc
    rw [List.mem_singleton] at hc
    subst hc
    decide

private theorem remainder_search {search : Option Text} (h : ∀ t ∈ search, IsSearch t) :
    remainder (trim (search.getD [])) = .ok (search.toList.map .text) := by
  cases search with
  | none => rfl
  | some t =>
      have ht := h t rfl
      have hbare : bare? t = none := by
        cases hread : bare? t with
        | none => rfl
        | some found =>
            obtain ⟨kind, hkind⟩ := bare?_sound hread
            exact absurd ⟨kind, _, _, hkind⟩ ht.not_bare
      rw [Option.getD_some, ht.tight, remainder, if_neg (mt List.isEmpty_iff.mp ht.ne_nil), hbare]
      rfl

/-- A canonical filter is read back from its token. -/
theorem parse_token_of_isCanonical {f : Filter} (h : f.IsCanonical) : parse f.token = .ok f := by
  obtain ⟨conditions, search, hf, hheld, hsearch⟩ := h
  obtain ⟨lead, hlead, htoken⟩ := token_of_predicates hf fun t ht => (hsearch t ht).ne_nil
  have hblank := allBlank_lead hlead
  have hnone : ¬ HoldsDirective (lead ++ search.getD []) := by
    rw [holdsDirective_allBlank_append hblank]
    cases search with
    | none => exact not_holdsDirective_nil
    | some t => exact (hsearch t rfl).holds_none
  have hpieces : pieces f.token =
      (conditions.map fun c => Piece.directive c.1.name (trim c.2)) ++
        (lead ++ search.getD []).map .char := by
    rw [htoken, pieces_brackets_append fun c hc => (hheld c hc).1,
      pieces_of_not_holdsDirective hnone]
  have hfound : directives (pieces f.token) = .ok (conditionsOf conditions) := by
    rw [hpieces, directives_brackets hheld, directives_map_char]
    exact congrArg Except.ok (List.append_nil _)
  have hrest : trim ((pieces f.token).map Piece.remnant) = trim (search.getD []) := by
    rw [hpieces, List.map_append, remnant_map_char, trim_allBlank_append remnants_brackets,
      trim_allBlank_append hblank]
  rw [parse_eq, hfound, hrest, remainder_search hsearch]
  change Except.ok (⟨conditionsOf conditions ++ search.toList.map .text⟩ : Filter) = .ok f
  rw [← hf]

/-- The conditions of a token that starts with brackets are these and those of the rest. -/
private theorem countP_brackets_append {conditions : List (FilterKind × Text)}
    (h : ∀ c ∈ conditions, IsHeld c.2) (rest : Text) :
    (pieces (brackets conditions ++ rest)).countP Piece.isDirective =
      conditions.length + (pieces rest).countP Piece.isDirective := by
  rw [pieces_brackets_append fun c hc => (h c hc).1, List.countP_append]
  congr 1
  rw [List.countP_map]
  exact List.countP_eq_length.mpr fun c _ => rfl

/-- A filter that is read back from its token is canonical. The reading finds as many bracketed
conditions as the filter has in front. So a last condition cannot have come from a bare one, whose
brackets would have been one more; and a last text holds none. -/
theorem isCanonical_of_parse_token {f : Filter} (h : parse f.token = .ok f) : f.IsCanonical := by
  obtain ⟨conditions, last, hf, hheld, hlength, hlast⟩ := parse_sound h
  rcases remainder_sound hlast with ⟨_, rfl⟩ | ⟨_, _, value, kind, _, rfl⟩ | ⟨hne, hbare, rfl⟩
  · exact ⟨conditions, none, hf, hheld, fun t ht => by cases ht⟩
  · have hall : f.predicates =
        conditionsOf (conditions ++ [(kind, lower (trim value))]) ++
          (none : Option Text).toList.map .text := by
      rw [hf]
      simp [conditionsOf]
    obtain ⟨lead, _, htoken⟩ := token_of_predicates hall fun t ht => by cases ht
    have hsplit : f.token = brackets conditions ++
        (bracket kind (lower (trim value)) ++ (lead ++ [])) := by
      rw [htoken]
      simp [brackets]
    rw [hsplit, countP_brackets_append hheld] at hlength
    have hnone := not_holdsDirective_of_countP
      (t := bracket kind (lower (trim value)) ++ (lead ++ [])) (by omega)
    obtain ⟨_, _, _, d, hd, hin⟩ := holdsDirective_bracket kind (lower (trim value))
    exact absurd ⟨_, _, _, d, hd, hin.trans (List.prefix_append _ _).isInfix⟩ hnone
  · have htight := trim_trim ((pieces f.token).map Piece.remnant)
    generalize trim ((pieces f.token).map Piece.remnant) = t at hf hne hbare htight
    have hshape : f.predicates =
        conditionsOf conditions ++ (some t).toList.map .text := hf
    obtain ⟨lead, hlead, htoken⟩ := token_of_predicates hshape fun t' ht' => by
      rw [← Option.some.inj ht']
      exact hne
    rw [htoken, countP_brackets_append hheld] at hlength
    have hnone := not_holdsDirective_of_countP (t := lead ++ t) (by simpa using hlength)
    rw [holdsDirective_allBlank_append (allBlank_lead hlead)] at hnone
    refine ⟨conditions, some t, hshape, hheld, ?_⟩
    intro t' ht'
    rw [← Option.some.inj ht']
    exact ⟨hne, htight, hnone, hbare⟩

/-- The round trip through the token keeps exactly the canonical filters; every other filter is
refused when its token is read, or read as a different one. -/
theorem parse_token_iff_isCanonical (f : Filter) : parse f.token = .ok f ↔ f.IsCanonical :=
  ⟨isCanonical_of_parse_token, parse_token_of_isCanonical⟩

example : parse (token ⟨[.named .status "a]b".toList]⟩) =
    .ok ⟨[.named .status "a".toList, .text "b]".toList]⟩ := by decide

/-- What a filter that was read from a token can still lack: no value of a condition has a closing
bracket, and no text holds a bracketed condition. -/
structure IsSettled (f : Filter) : Prop where
  value_open : ∀ kind value, .named kind value ∈ f.predicates → ']' ∉ value
  text_plain : ∀ t, .text t ∈ f.predicates → ¬ HoldsDirective t

theorem isSettled_of_isCanonical {f : Filter} (h : f.IsCanonical) : f.IsSettled := by
  obtain ⟨conditions, search, hf, hheld, hsearch⟩ := h
  constructor
  · intro kind value hmem
    rw [hf, List.mem_append] at hmem
    rcases hmem with hcondition | htext
    · obtain ⟨c, hc, heq⟩ := List.mem_map.mp hcondition
      obtain ⟨rfl, rfl⟩ := Predicate.named.inj heq
      exact (hheld c hc).1
    · obtain ⟨t, _, heq⟩ := List.mem_map.mp htext
      cases heq
  · intro t hmem
    rw [hf, List.mem_append] at hmem
    rcases hmem with hcondition | htext
    · obtain ⟨c, _, heq⟩ := List.mem_map.mp hcondition
      cases heq
    · obtain ⟨t', ht', heq⟩ := List.mem_map.mp htext
      obtain rfl := Predicate.text.inj heq
      exact (hsearch t' (Option.mem_toList.mp ht')).holds_none

/-- A filter that was read from a token is canonical exactly if it is settled. The bare form is
what lets a closing bracket into a value, and a condition that is taken out of a line can bring two
halves of another one together. -/
theorem isCanonical_iff_of_parse {source : Text} {f : Filter} (h : parse source = .ok f) :
    f.IsCanonical ↔ f.IsSettled := by
  refine ⟨isSettled_of_isCanonical, ?_⟩
  rintro ⟨hopen, hplain⟩
  obtain ⟨conditions, last, hf, hheld, _, hlast⟩ := parse_sound h
  rcases remainder_sound hlast with ⟨_, rfl⟩ | ⟨_, _, value, kind, hbare, rfl⟩ | ⟨hne, hbare, rfl⟩
  · exact ⟨conditions, none, hf, hheld, fun t ht => by cases ht⟩
  · refine ⟨conditions ++ [(kind, lower (trim value))], none, ?_, ?_, fun t ht => by cases ht⟩
    · rw [hf]
      simp [conditionsOf]
    · intro c hc
      rcases List.mem_append.mp hc with hc | hc
      · exact hheld c hc
      · rw [List.mem_singleton] at hc
        subst hc
        refine ⟨hopen kind _ (by rw [hf]; simp), ?_⟩
        rw [trim_lower, trim_trim, lower_lower]
  · refine ⟨conditions, some (trim ((pieces source).map Piece.remnant)), hf, hheld, ?_⟩
    intro t ht
    obtain rfl := Option.some.inj ht
    exact ⟨hne, trim_trim _, hplain _ (by rw [hf]; simp), hbare⟩

end Agenda.Filter
