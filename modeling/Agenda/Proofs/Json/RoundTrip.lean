import Agenda.Json.Reader
import Agenda.Json.Writer
import Agenda.Proofs.Text.Alphabet
import Mathlib

/-!
An object of strings that has been written is read back: its strings code point by code point, and
its fields in order, as long as no name comes twice. It is read in any alphabet, and what is written
in an alphabet is read there again if it has nothing but characters.
-/

namespace Agenda.Json

open Text

/-- The number that an escape writes for a control is the control. -/
private theorem hexNumber?_hex : ∀ n < 32, ∃ a b c d,
    Text.hex 4 n = [a, b, c, d] ∧ hexNumber? a b c d = some n := by
  intro n hn
  have hall : ∀ n < 32, (Text.hex 4 n).length = 4 ∧
      hexNumber? ((Text.hex 4 n).getD 0 '0') ((Text.hex 4 n).getD 1 '0')
        ((Text.hex 4 n).getD 2 '0') ((Text.hex 4 n).getD 3 '0') = some n := by decide
  obtain ⟨hlength, hread⟩ := hall n hn
  obtain ⟨a, b, c, d, hhex⟩ := List.length_eq_four.mp hlength
  rw [hhex] at hread
  exact ⟨a, b, c, d, hhex, hread⟩

/-- A number below the surrogates is followed by whatever comes next, also by another escape. -/
private theorem stringRest_number {a b c d : Char} {n : Nat} (hn : n < 32)
    (h : hexNumber? a b c d = some n) (s : Text) :
    stringRest ('\\' :: 'u' :: a :: b :: c :: d :: s) =
      (stringRest s).map fun p => (.char (Char.ofNat n) :: p.1, p.2) := by
  have hhigh : isHighSurrogate n = false := by
    simp [isHighSurrogate]
    omega
  have hpoint : codePoint n = .char (Char.ofNat n) := dif_neg (by omega)
  rw [stringRest.eq_def]
  simp only [h]
  split <;> simp [hhigh, hpoint, Option.map_eq_bind]

private theorem stringRest_letter {e c : Char} (he : e ≠ 'u') (h : escaped? e = some c)
    (s : Text) :
    stringRest ('\\' :: e :: s) = (stringRest s).map fun p => (.char c :: p.1, p.2) := by
  rw [stringRest.eq_def]
  split
  · next heq => cases heq
  · next heq => simp at heq
  · next heq =>
      simp only [List.cons.injEq, true_and] at heq
      exact absurd heq.1 he
  · next heq =>
      simp only [List.cons.injEq, true_and] at heq
      obtain ⟨rfl, rfl⟩ := heq
      simp [h, Option.map_eq_bind]
  · next hno heq =>
      obtain ⟨rfl, rfl⟩ := List.cons.inj heq
      exact (hno e s rfl rfl).elim

private theorem stringRest_plain {c : Char} (hmark : c ≠ '"') (hslash : c ≠ '\\')
    (hcontrol : ¬ c.toNat < 32) (s : Text) :
    stringRest (c :: s) = (stringRest s).map fun p => (.char c :: p.1, p.2) := by
  rw [stringRest.eq_def]
  split
  · next heq => cases heq
  · next heq => exact absurd (List.cons.inj heq).1 hmark
  · next heq => exact absurd (List.cons.inj heq).1 hslash
  · next heq => exact absurd (List.cons.inj heq).1 hslash
  · next heq =>
      obtain ⟨rfl, rfl⟩ := List.cons.inj heq
      simp [hslash, hcontrol, Option.map_eq_bind]

/-- A code point is read back from the way it stands in a string. -/
theorem stringRest_escapeChar (c : Char) (s : Text) :
    stringRest (escapeChar c ++ s) = (stringRest s).map fun p => (.char c :: p.1, p.2) := by
  unfold escapeChar
  split_ifs with hmark hslash hline hreturn htab hfeed hback hcontrol
  case pos | pos | pos | pos | pos | pos | pos =>
    subst c
    exact stringRest_letter (by decide) rfl s
  · obtain ⟨a, b, d, e, hhex, hread⟩ := hexNumber?_hex c.toNat hcontrol
    have hnumber := stringRest_number hcontrol hread s
    rw [Char.ofNat_toNat] at hnumber
    rw [hhex]
    exact hnumber
  · exact stringRest_plain hmark hslash hcontrol s

private theorem stringRest_quote (t rest : Text) :
    stringRest (t.flatMap escapeChar ++ '"' :: rest) = some (t.map .char, rest) := by
  induction t with
  | nil => simp [stringRest]
  | cons c t ih =>
      rw [List.flatMap_cons, List.append_assoc, stringRest_escapeChar, ih]
      rfl

theorem quote_char (t : Text) : quote t = '"' :: (t.flatMap escapeChar ++ ['"']) := by
  simp [quote]

section Fields

variable {α : Type} [Alphabet α]

/-- A string is read back in any alphabet, whatever follows it. -/
theorem stringAt?_quote (t rest : Text) :
    stringAt? (t.flatMap escapeChar ++ '"' :: rest) = some ((spell t : List α), rest) := by
  rw [stringAt?, stringRest_quote, Option.map_some]
  exact congrArg (fun t => some (t, rest)) (List.map_map ..)

/-- A field as it stands in an object, without the blanks in front. -/
private def fieldText (field : Text × Text) : Text :=
  quote field.1 ++ ':' :: ' ' :: quote field.2

/-- Fields as they stand in an object, without the blanks in front of the first. -/
private def fieldsText : List (Text × Text) → Text
  | [] => []
  | [field] => fieldText field
  | field :: next :: more =>
    fieldText field ++ ',' :: '\n' :: ' ' :: ' ' :: fieldsText (next :: more)

/-- The fields of strings. -/
def stringFields (fields : List (List α × List α)) : List (List α × Value α) :=
  fields.map fun field => (field.1, .string field.2)

/-- Names and values of characters in an alphabet. -/
def spellFields (fields : List (Text × Text)) : List (List α × List α) :=
  fields.map (Prod.map spell spell)

/-- Blanks are skipped up to the first sign that is none. -/
private theorem skipSpace_cons {c : Char} (h : isSpace c = false) (s : Text) :
    skipSpace (c :: s) = c :: s := by
  simp [skipSpace, h]

private theorem skipSpace_blank {c : Char} (h : isSpace c = true) (s : Text) :
    skipSpace (c :: s) = skipSpace s := by
  simp [skipSpace, h]

private theorem fieldText_eq (field : Text × Text) (rest : Text) :
    fieldText field ++ rest = '"' :: (field.1.flatMap escapeChar ++ '"' ::
      (':' :: ' ' :: '"' :: (field.2.flatMap escapeChar ++ '"' :: rest))) := by
  simp [fieldText, quote_char]

private theorem fieldsText_cons (field : Text × Text) (more : List (Text × Text)) :
    ∃ rest, fieldsText (field :: more) = '"' :: rest := by
  cases more with
  | nil => exact ⟨_, by simp [fieldsText, fieldText, quote_char]; rfl⟩
  | cons next more => exact ⟨_, by simp [fieldsText, fieldText, quote_char]; rfl⟩

section Items

variable {item : Text → Option (Value α × Text)}
    (hitem : ∀ t rest,
      item ('"' :: (t.flatMap escapeChar ++ '"' :: rest)) = some (.string (spell t), rest))
include hitem

/-- A field that a comma follows is read, and then the others. -/
private theorem fieldsAt?_comma (fuel : Nat) (field : Text × Text) {rest more : Text}
    (h : skipSpace rest = ',' :: more) :
    fieldsAt? item (fuel + 1) (fieldText field ++ rest) =
      (fieldsAt? item fuel (skipSpace more)).map fun p =>
        ((spell field.1, .string (spell field.2)) :: p.1, p.2) := by
  rw [fieldText_eq, fieldsAt?]
  simp only [stringAt?_quote, skipSpace_cons (c := ':') rfl, skipSpace_blank (c := ' ') rfl,
    skipSpace_cons (c := '"') rfl, hitem, Option.bind_eq_bind, Option.bind_some, h]
  exact Option.map_eq_bind.symm

/-- A field that the closing brace follows is the last. -/
private theorem fieldsAt?_brace (fuel : Nat) (field : Text × Text) {rest more : Text}
    (h : skipSpace rest = '\x7d' :: more) :
    fieldsAt? item (fuel + 1) (fieldText field ++ rest) =
      some ([(spell field.1, .string (spell field.2))], more) := by
  rw [fieldText_eq, fieldsAt?]
  simp only [stringAt?_quote, skipSpace_cons (c := ':') rfl, skipSpace_blank (c := ' ') rfl,
    skipSpace_cons (c := '"') rfl, hitem, Option.bind_eq_bind, Option.bind_some, h]
  rfl

/-- The fields of an object are read up to its closing brace. -/
private theorem fieldsAt?_fieldsText {fields : List (Text × Text)} (hne : fields ≠ []) {fuel : Nat}
    (hfuel : fields.length ≤ fuel) :
    fieldsAt? item fuel (fieldsText fields ++ ['\n', '\x7d']) =
      some (stringFields (spellFields fields), []) := by
  induction fields generalizing fuel with
  | nil => exact absurd rfl hne
  | cons field more ih =>
      cases fuel with
      | zero => simp at hfuel
      | succ fuel =>
          cases more with
          | nil =>
              have hend : skipSpace ['\n', '\x7d'] = '\x7d' :: [] := rfl
              rw [fieldsText, fieldsAt?_brace hitem fuel field hend]
              rfl
          | cons next more =>
              have hrest := @ih (by simp) fuel (by simpa using hfuel)
              obtain ⟨rest, hmark⟩ := fieldsText_cons next more
              have hcomma : skipSpace (',' :: '\n' :: ' ' :: ' ' :: fieldsText (next :: more) ++
                  ['\n', '\x7d']) = ',' :: '\n' :: ' ' :: ' ' :: (fieldsText (next :: more) ++
                    ['\n', '\x7d']) := by
                exact skipSpace_cons rfl _
              rw [fieldsText, List.append_assoc, fieldsAt?_comma hitem fuel field hcomma,
                skipSpace_blank rfl, skipSpace_blank rfl, skipSpace_blank rfl, hmark,
                List.cons_append, skipSpace_cons rfl, ← List.cons_append, ← hmark, hrest]
              rfl

end Items

/-- A line of a written object. -/
private theorem join_lines (fields : List (Text × Text)) (hne : fields ≠ []) :
    Text.join [',', '\n'] (fields.map fun field => ' ' :: ' ' :: fieldText field) =
      ' ' :: ' ' :: fieldsText fields := by
  induction fields with
  | nil => exact absurd rfl hne
  | cons field more ih =>
      cases more with
      | nil => simp [Text.join, List.intercalate, fieldsText]
      | cons next more =>
          have hmore := ih (by simp)
          simp only [Text.join, List.map_cons] at hmore ⊢
          rw [List.intercalate_cons_cons, hmore]
          simp [fieldsText]

private theorem length_le_fieldsText (fields : List (Text × Text)) :
    fields.length ≤ (fieldsText fields).length := by
  induction fields with
  | nil => simp
  | cons field more ih =>
      cases more with
      | nil => simp [fieldsText, fieldText, quote_char]
      | cons next more =>
          simp only [fieldsText, List.length_append, List.length_cons] at ih ⊢
          omega

private theorem writeFields_eq {fields : List (Text × Text)} (hne : fields ≠ []) :
    writeFields fields =
      '\x7b' :: '\n' :: ' ' :: ' ' :: (fieldsText fields ++ ['\n', '\x7d']) := by
  unfold writeFields
  have hlines : (fieldLine : Text × Text → Text) = fun field => ' ' :: ' ' :: fieldText field := by
    funext field
    simp [fieldLine, fieldText]
  rw [if_neg (mt List.isEmpty_iff.mp hne), hlines]
  simp only [spell_char, join_lines fields hne]
  rfl

section Reading

variable [DecidableEq α]

private theorem valueAt?_object {size depth : Nat} {s rest : Text}
    (h : skipSpace s = '"' :: rest) :
    valueAt? (α := α) size (depth + 1) ('\x7b' :: s) =
      (fieldsAt? (valueAt? size depth) size ('"' :: rest)).map fun p => (objectOf p.1, p.2) := by
  rw [valueAt?, h]
  rfl

omit [Alphabet α] in
/-- A new name comes last. -/
private theorem putEntry_of_not_mem {name : List α} {value : Value α}
    {known : List (List α × Value α)} (h : name ∉ known.map Prod.fst) :
    Text.putEntry name value known = known ++ [(name, value)] := by
  induction known with
  | nil => rfl
  | cons entry rest ih =>
      rw [List.map_cons, List.mem_cons, not_or] at h
      rw [Text.putEntry, if_neg fun heq => h.1 heq.symm, ih h.2]
      rfl

omit [Alphabet α] in
private theorem foldl_putEntry (known : List (List α × Value α))
    {fields : List (List α × Value α)} (h : ((known ++ fields).map Prod.fst).Nodup) :
    fields.foldl (fun known (name, value) => Text.putEntry name value known) known =
      known ++ fields := by
  induction fields generalizing known with
  | nil => simp
  | cons field more ih =>
      have hsplit : known ++ field :: more = (known ++ [field]) ++ more := by simp
      have hnew : field.1 ∉ known.map Prod.fst := by
        rw [List.map_append, List.map_cons, List.nodup_middle, List.nodup_cons,
          List.mem_append, not_or] at h
        exact h.1.1
      rw [hsplit] at h ⊢
      rw [← ih _ h, List.foldl_cons]
      congr 1
      exact putEntry_of_not_mem hnew

omit [Alphabet α] in
theorem objectOf_of_nodup {fields : List (List α × Value α)}
    (h : (fields.map Prod.fst).Nodup) : objectOf fields = .object fields := by
  unfold objectOf
  rw [foldl_putEntry [] (by simpa using h)]
  rfl

/-- An object of strings that has been written is read in any alphabet, field by field, however
little nesting is allowed. -/
private theorem read?_of_texts (nesting : Nat) {fields : List (Text × Text)}
    (h : ((spellFields fields : List (List α × List α)).map Prod.fst).Nodup) :
    read? (α := α) nesting (writeFields fields) =
      some (.object (stringFields (spellFields fields))) := by
  by_cases hne : fields = []
  · subst hne
    rfl
  · obtain ⟨field, more, rfl⟩ := List.exists_cons_of_ne_nil hne
    obtain ⟨rest, hmark⟩ := fieldsText_cons field more
    have hitem : ∀ t rest, valueAt? (α := α) (writeFields (field :: more)).length nesting
        ('"' :: (t.flatMap escapeChar ++ '"' :: rest)) = some (.string (spell t), rest) := by
      intro t rest
      rw [valueAt?, stringAt?_quote]
      rfl
    have hfuel : (field :: more).length ≤ (writeFields (field :: more)).length := by
      have hlength := length_le_fieldsText (field :: more)
      rw [writeFields_eq hne]
      simp only [List.length_cons, List.length_append] at hlength ⊢
      omega
    have hfields := fieldsAt?_fieldsText hitem hne hfuel
    have hobject : objectOf (α := α) (stringFields (spellFields (field :: more))) =
        .object (stringFields (spellFields (field :: more))) := by
      apply objectOf_of_nodup
      rwa [stringFields, List.map_map]
    unfold read?
    generalize (writeFields (field :: more)).length = size at hfields
    have hskip : ∀ s, skipSpace ('\n' :: ' ' :: ' ' :: '"' :: s) = '"' :: s := by
      intro s
      rw [skipSpace_blank rfl, skipSpace_blank rfl, skipSpace_blank rfl, skipSpace_cons rfl]
    rw [hmark, List.cons_append] at hfields
    rw [writeFields_eq hne, hmark, skipSpace_cons rfl, List.cons_append,
      valueAt?_object (hskip _), hfields, Option.map_some, hobject]
    rfl

end Reading

/-- What is no character stands for itself, so a text that is written in characters has no others. -/
private theorem exists_spell_of_escape {s : Text} {t : List α} (h : t.flatMap escape ⊆ spell s) :
    ∃ s', spell s' = t := by
  refine (exists_spell_iff t).mpr fun c hc => ?_
  cases hchar : Alphabet.char? c with
  | some d => exact ⟨d, (Alphabet.char?_eq_some_iff.mp hchar).symm⟩
  | none =>
      have hself : c ∈ t.flatMap escape := by
        refine List.mem_flatMap.mpr ⟨c, hc, ?_⟩
        rw [escape, hchar]
        exact List.mem_singleton_self c
      obtain ⟨d, _, hd⟩ := List.mem_map.mp (h hself)
      exact ⟨d, hd⟩

/-- Fields that are written in characters have names and values of characters. -/
private theorem exists_texts_of_writeFields {fields : List (List α × List α)} {s : Text}
    (h : writeFields fields = spell s) : ∃ texts, fields = spellFields texts := by
  have hrange : fields ∈ Set.range (List.map (Prod.map spell spell)) := by
    rw [Set.range_list_map]
    intro field hfield
    have hne : fields.isEmpty = false := by
      cases fields with
      | nil => cases hfield
      | cons => rfl
    have hline : fieldLine field ⊆ spell s := by
      intro c hc
      rw [← h, writeFields, hne]
      exact List.mem_append_left _
        (List.mem_append_right _ (subset_join (List.mem_map_of_mem hfield) hc))
    obtain ⟨name, hname⟩ := exists_spell_of_escape (t := field.1) fun c hc =>
      hline (by simp [fieldLine, quote, hc])
    obtain ⟨value, hvalue⟩ := exists_spell_of_escape (t := field.2) fun c hc =>
      hline (by simp [fieldLine, quote, hc])
    exact ⟨(name, value), Prod.ext hname hvalue⟩
  obtain ⟨texts, htexts⟩ := hrange
  exact ⟨texts, htexts.symm⟩

private theorem quote_spell (t : Text) : quote (spell t : List α) = spell (quote t) := by
  simp [quote, spell, List.map_flatMap, List.flatMap_map, escape_ofChar]

/-- Names and values of characters are written as they are in characters. -/
private theorem writeFields_spellFields (fields : List (Text × Text)) :
    writeFields (spellFields fields : List (List α × List α)) = spell (writeFields fields) := by
  cases fields with
  | nil => rfl
  | cons field more =>
      have hlines : (spellFields (field :: more) : List (List α × List α)).map fieldLine =
          ((field :: more).map fieldLine).map spell := by
        rw [spellFields, List.map_map, List.map_map]
        refine List.map_congr_left fun field _ => ?_
        simp only [Function.comp_apply, fieldLine, Prod.map_fst, Prod.map_snd, quote_spell,
          spell_append, spell_char]
      unfold writeFields
      rw [hlines, if_neg (by simp [spellFields]), if_neg (by simp), spell_append, spell_append,
        spell_char, spell_char, spell_char]
      exact congrArg (spell ['\x7b', '\n'] ++ · ++ spell ['\n', '\x7d']) (map_join ..).symm

/-- What is written in an alphabet and encoded is read there again: an object of strings, field by
field, as long as no name comes twice. -/
theorem read?_writeFields [DecidableEq α] (nesting : Nat) {fields : List (List α × List α)}
    {s : Text} (h : writeFields fields = spell s) (hnames : (fields.map Prod.fst).Nodup) :
    read? nesting s = some (.object (stringFields fields)) := by
  obtain ⟨texts, rfl⟩ := exists_texts_of_writeFields h
  rw [← spell_injective ((writeFields_spellFields texts).symm.trans h)]
  exact read?_of_texts nesting hnames

end Fields

end Agenda.Json
