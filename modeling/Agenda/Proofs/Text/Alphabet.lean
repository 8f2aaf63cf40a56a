import Agenda.Text.Utf8
import Mathlib

/-!
Texts in an alphabet: their order, and the texts of characters among them. A text has one spelling
in an alphabet, and a text of the alphabet is the spelling of one exactly if each of its code points
is a character. Such texts are the ones that can be encoded.
-/

namespace Agenda.Text

variable {α : Type} [Alphabet α]

theorem le_of_lt {s t : List α} (h : s < t) : s ≤ t :=
  fun hback => lt_irrefl s (lt_trans h hback)

instance : Std.Total (α := List α) (· ≤ ·) where
  total _ _ := or_iff_not_imp_left.mpr fun h => le_of_lt (not_not.mp h)

instance : Std.Antisymm (α := List α) (· ≤ ·) where
  antisymm _ _ h h' := by
    by_contra hne
    exact h' (lt_of_not_lt h (Ne.symm hne))

instance : IsTrans (List α) (· ≤ ·) where
  trans s t u h h' := by
    intro hback
    by_cases heq : u = t
    · exact h (heq ▸ hback)
    · exact h (lt_trans (lt_of_not_lt h' heq) hback)

theorem ofChar_injective : Function.Injective (Alphabet.ofChar : Char → α) := by
  intro c d h
  have hc : Alphabet.char? (Alphabet.ofChar c : α) = some c :=
    Alphabet.char?_eq_some_iff.mpr rfl
  have hd : Alphabet.char? (Alphabet.ofChar c : α) = some d := Alphabet.char?_eq_some_iff.mpr h
  exact Option.some.inj (hc.symm.trans hd)

theorem spell_injective : Function.Injective (spell : Text → List α) :=
  List.map_injective_iff.mpr ofChar_injective

theorem spell_append (s t : Text) : (spell (s ++ t) : List α) = spell s ++ spell t :=
  List.map_append

theorem exists_spell_iff (t : List α) :
    (∃ s, spell s = t) ↔ ∀ c ∈ t, ∃ d : Char, Alphabet.ofChar d = c :=
  Set.ext_iff.mp (Set.range_list_map Alphabet.ofChar) t

theorem chars?_eq_some_iff {t : List α} {s : Text} : chars? t = some s ↔ t = spell s := by
  induction t generalizing s with
  | nil => cases s <;> simp [chars?, spell]
  | cons c rest ih =>
      rw [chars?, List.mapM_cons]
      simp only [Option.bind_eq_bind, Option.bind_eq_some_iff, Option.pure_def, Option.some.injEq]
      cases s with
      | nil => simp [spell]
      | cons d s =>
          simp only [List.cons.injEq, spell, List.map_cons, ← Alphabet.char?_eq_some_iff]
          constructor
          · rintro ⟨_, hc, _, hrest, rfl, rfl⟩
            exact ⟨hc, ih.mp hrest⟩
          · rintro ⟨hc, hrest⟩
            exact ⟨d, hc, s, ih.mpr hrest, rfl, rfl⟩

/-- What can be encoded is the spelling of a text, and has the bytes of that text. -/
theorem encode_eq_ok_iff {t : List α} {bytes : ByteArray} :
    encode t = .ok bytes ↔ ∃ s, t = spell s ∧ bytes = toBytes s := by
  unfold encode
  cases hchars : chars? t with
  | none =>
      simp only [reduceCtorEq, false_iff, not_exists, not_and]
      intro s hs
      rw [chars?_eq_some_iff.mpr hs] at hchars
      cases hchars
  | some s =>
      obtain rfl := chars?_eq_some_iff.mp hchars
      simp only [Except.ok.injEq, spell_injective.eq_iff, exists_eq_left', eq_comm]

theorem encode_char (t : Text) : encode t = .ok (toBytes t) :=
  encode_eq_ok_iff.mpr ⟨t, (spell_char t).symm, rfl⟩

theorem subset_join {β : Type} {separator part : List β} {parts : List (List β)}
    (h : part ∈ parts) : part ⊆ join separator parts := by
  induction parts with
  | nil => cases h
  | cons first rest ih =>
      cases rest with
      | nil =>
          rw [List.mem_singleton.mp h, join, List.intercalate_singleton]
          exact List.Subset.refl _
      | cons next more =>
          rw [join, List.intercalate_cons_cons]
          rcases List.mem_cons.mp h with rfl | hrest
          · exact fun c hc => by simp [hc]
          · exact fun c hc => by simpa using .inr (.inr (ih hrest hc))

theorem map_join {β γ : Type} (f : β → γ) (separator : List β) (parts : List (List β)) :
    (join separator parts).map f = join (separator.map f) (parts.map (List.map f)) := by
  induction parts with
  | nil => rfl
  | cons first rest ih =>
      cases rest with
      | nil => simp [join]
      | cons next more =>
          simp only [join, List.map_cons] at ih ⊢
          rw [List.intercalate_cons_cons, List.intercalate_cons_cons, List.map_append,
            List.map_append, ih]

end Agenda.Text
