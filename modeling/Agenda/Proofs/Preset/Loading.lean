import Agenda.Proofs.Filter.Shown
import Agenda.Proofs.Preset.Map
import Agenda.Proofs.Preset.Store

/-!
Loading a file of saved filters. A file whose content is no object loads empty, and the fields of
an object load as the finite map that they make in order, unless the token of a field is refused:
this ends the loading.
-/

namespace Agenda.Presets

open Files Json Text

variable {α : Type} [Alphabet α] [DecidableEq α]

/-- The finite map with a field put in under its trimmed name in lowercase. A field that is no text
and a field of a blank name are left out. -/
def FilterMap.withField (m : FilterMap α) : List α × Value α → FilterMap α
  | (name, .string token) => (m.store name (Filter.parse token)).2
  | _ => m

/-- The finite map with all fields put in, in order: a later one replaces an earlier one. -/
def FilterMap.withFields (m : FilterMap α) (fields : List (List α × Value α)) : FilterMap α :=
  fields.foldl withField m

/-- The field has a name, and a token that is refused. -/
def IsRefused (field : List α × Value α) : Prop :=
  isBlankText field.1 = false ∧
    ∃ token, field.2 = .string token ∧ Filter.Misspells (inSigns token)

variable [DecidableLT α] {p : Presets α} {m : FilterMap α}

/-- One field is put into the registry as into the finite map, or ends the reading. -/
private theorem addFields_cons_cases (h : Represents p m) (field : List α × Value α)
    (rest : List (List α × Value α)) :
    (¬ IsRefused field ∧ ∃ q, Represents q (m.withField field) ∧
        (addFields p (field :: rest)).result = (addFields q rest).result) ∨
      (IsRefused field ∧ ∃ word, Filter.HasVariant word ∧
        (addFields p (field :: rest)).result = .error (.unknownKind word)) := by
  obtain ⟨name, value⟩ := field
  by_cases htext : ∃ token, value = .string token
  · obtain ⟨token, rfl⟩ := htext
    have hleft : Represents (p.addToken name token).2 (m.withField (name, .string token)) :=
      (h.add name _).2
    rw [addFields]
    by_cases hblank : isBlankText name = true
    · rw [if_pos hblank]
      unfold addToken add at hleft
      rw [if_pos hblank] at hleft
      refine .inl ⟨fun hrefused => ?_, p, hleft, rfl⟩
      rw [hrefused.1] at hblank
      cases hblank
    · rw [if_neg hblank]
      rcases Filter.parse_cases_inSigns token with
        ⟨hread, f, hf⟩ | ⟨hmisspelled, word, hword, hfault⟩
      · have hadd : p.addToken name token = (.ok f, p.put (key name) f) := by
          rw [addToken, hf, add, if_neg hblank]
        rw [hadd] at hleft ⊢
        refine .inl ⟨?_, _, hleft, rfl⟩
        rintro ⟨_, other, heq, hmisspelled⟩
        cases heq
        exact hread hmisspelled
      · have hadd : p.addToken name token = (.error (.unknownKind word), p) := by
          rw [addToken, hfault, add, if_neg hblank]
        rw [hadd]
        exact .inr ⟨⟨Bool.eq_false_iff.mpr hblank, token, rfl, hmisspelled⟩, word, hword, rfl⟩
  · refine .inl ⟨fun hrefused => htext (hrefused.2.imp fun _ => And.left), p, ?_⟩
    cases value with
    | string token => exact absurd ⟨token, rfl⟩ htext
    | _ => exact ⟨h, rfl⟩

/-- The fields of an object are put into the registry as into the finite map, if none is refused,
and otherwise the first that is refused ends the reading. -/
theorem addFields_cases (h : Represents p m) (fields : List (List α × Value α)) :
    ((∀ field ∈ fields, ¬ IsRefused field) ∧
        ∃ q, (addFields p fields).result = .ok q ∧ Represents q (m.withFields fields)) ∨
      ((∃ field ∈ fields, IsRefused field) ∧ ∃ word, Filter.HasVariant word ∧
        (addFields p fields).result = .error (.unknownKind word)) := by
  induction fields generalizing p m with
  | nil => exact .inl ⟨nofun, p, rfl, h⟩
  | cons field rest ih =>
      rcases addFields_cons_cases h field rest with ⟨hread, q, hq, hstep⟩ | ⟨hrefused, hfault⟩
      · rw [hstep]
        rcases ih hq with ⟨hall, r, hr⟩ | ⟨⟨other, hmem, hrefused⟩, hfault⟩
        · exact .inl ⟨List.forall_mem_cons.mpr ⟨hread, hall⟩, r, hr⟩
        · exact .inr ⟨⟨other, List.mem_cons_of_mem _ hmem, hrefused⟩, hfault⟩
      · exact .inr ⟨⟨field, List.mem_cons_self, hrefused⟩, hfault⟩

/-- Loading a file that is there. If its content is no object, or one that is nested too deeply, the
registry is empty. Otherwise the registry is the finite map of the fields in order, exactly if no
field that has a name has a token with a misspelled kind. Such a token is taken for an unknown kind,
and this is the only way in which loading fails. -/
theorem load_of_file (nesting : Nat) {tree : Tree} {path : Path} {content : ByteArray}
    (hfile : tree.find path = .ok (some (.file content))) :
    match decode? (α := α) nesting content with
    | some (.object fields) =>
        ((∀ field ∈ fields, ¬ IsRefused field) →
          ∃ p, (load (α := α) nesting tree path).result = .ok p ∧
            Represents p (FilterMap.withFields ∅ fields)) ∧
        ((∃ field ∈ fields, IsRefused field) →
          ∃ word, Filter.HasVariant word ∧
            (load (α := α) nesting tree path).result = .error (.unknownKind word))
    | _ => (load (α := α) nesting tree path).result = .ok empty := by
  rw [load_of_find nesting hfile]
  split
  · next fields hdecode =>
      rw [ofContent_result hdecode]
      rcases addFields_cases Represents.empty fields with ⟨hnone, hread⟩ | ⟨hsome, hfault⟩
      · exact ⟨fun _ => hread, fun ⟨field, hmem, hrefused⟩ => absurd hrefused (hnone field hmem)⟩
      · obtain ⟨field, hmem, hrefused⟩ := hsome
        exact ⟨fun hnone => absurd hrefused (hnone field hmem), fun _ => hfault⟩
  · next hno =>
      unfold ofContent
      split
      · rfl
      · next fields hdecode => exact absurd hdecode (hno fields)
      · rfl

/-- A field that is no text is left out, and the name of the other one is kept in lowercase and
without the blank behind it. -/
theorem load_of_file_done :
    let path := Path.ofText "p.json".toList
    let content := toBytes "\x7b\"Home \": \"[status:done]\", \"n\": 1\x7d".toList
    let done : Filter Point := ⟨[.named .status (spell "done".toList)]⟩
    ∃ p : Presets Point, (load 0 ⟨[(path, .file content)]⟩ path).result = .ok p ∧
      p.lookup? (spell "home".toList) = some done := by
  intro path content done
  have hdecode : decode? (α := Point) 0 content = some (.object
      [(spell "Home ".toList, .string (spell "[status:done]".toList)),
        (spell "n".toList, .number ['1'])]) := by
    rw [decode?_toBytes]
    rfl
  have hfile : Tree.find ⟨[(path, .file content)]⟩ path = .ok (some (.file content)) := rfl
  have hread : Filter.parse (spell "[status:done]".toList) = .ok done := by decide +kernel
  have hplain : Filter.parse (inSigns (spell "[status:done]".toList : List Point)) =
      .ok ⟨[.named .status "done".toList]⟩ := by
    decide +kernel
  have hkey : lower (trim (spell "Home ".toList : List Point)) = spell "home".toList := by
    decide +kernel
  have hload := load_of_file (α := Point) 0 hfile
  rw [hdecode] at hload
  obtain ⟨p, hp, hrepresents⟩ := hload.1 (by
    rintro field hfield ⟨_, token, htoken, hmisspelled⟩
    rcases List.mem_pair.mp hfield with rfl | rfl
    · cases htoken
      exact Filter.not_misspells_of_parse hplain hmisspelled
    · cases htoken)
  refine ⟨p, hp, (hrepresents _).trans ?_⟩
  have hnamed : isBlankText (spell "Home ".toList : List Point) = false := by decide
  simp only [FilterMap.withFields, List.foldl_cons, List.foldl_nil, FilterMap.withField,
    FilterMap.store, hread, hnamed]
  rw [hkey]
  exact Finmap.lookup_insert _

/-- Names with different halves are kept apart. -/
example :
    let path := Path.ofText "p.json".toList
    let content := toBytes "\x7b\"\\ud800\": \"a\", \"\\ud801\": \"b\"\x7d".toList
    (load (α := Point) 0 ⟨[(path, .file content)]⟩ path).result.map Presets.entries =
      .ok [([.half 0xd800 (by decide)], ⟨[.text [.char 'a']]⟩),
        ([.half 0xd801 (by decide)], ⟨[.text [.char 'b']]⟩)] := by
  decide +kernel

/-- A dotless `i` is read as the letter in the name of a kind and then makes it unknown: the file
is not loaded at all. -/
theorem load_misspelled :
    let path := Path.ofText "p.json".toList
    let content := toBytes
      "\x7b\"ok\": \"[status:done]\", \"bad\": \"[pr\u0131ority:high]\"\x7d".toList
    (load (α := Point) 0 ⟨[(path, .file content)]⟩ path).result =
      .error (.unknownKind "pr\u0131ority".toList) := by
  decide +kernel

end Agenda.Presets
