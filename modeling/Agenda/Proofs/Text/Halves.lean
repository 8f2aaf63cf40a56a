import Agenda.Proofs.Text.Lower

/-!
What lowercasing keeps, in characters and in code points. A half that stands alone parts a text of
code points into runs of characters, and each run is lowercased for itself.
-/

namespace Agenda

namespace Point

/-- A text of code points is a run of characters, or such a run, a half and a text behind it. -/
@[elab_as_elim]
theorem runs {motive : List Point → Prop} (run : ∀ s : Text, motive (s.map char))
    (behind : ∀ (s : Text) (n : Nat) (hn : IsHalf n) (rest : List Point), motive rest →
      motive (s.map char ++ half n hn :: rest)) (t : List Point) : motive t := by
  have hall : ∀ s : Text, motive (s.map char ++ t) := by
    induction t with
    | nil =>
        intro s
        rw [List.append_nil]
        exact run s
    | cons a rest ih =>
        intro s
        cases a with
        | char c => simpa using ih (s ++ [c])
        | half n hn => exact behind s n hn rest (ih [])
  exact hall []

private theorem lowerRun_run (done s : Text) :
    lowerRun done (s.map char) = (Text.lowerFrom false (done.reverse ++ s)).map char := by
  induction s generalizing done with
  | nil => rw [List.append_nil]; rfl
  | cons c rest ih =>
      rw [List.map_cons, lowerRun, ih, List.reverse_cons, List.append_assoc]
      rfl

private theorem lowerRun_half (done s : Text) (n : Nat) (hn : IsHalf n) (rest : List Point) :
    lowerRun done (s.map char ++ half n hn :: rest) =
      (Text.lowerFrom false (done.reverse ++ s)).map char ++ half n hn :: lowerRun [] rest := by
  induction s generalizing done with
  | nil => rw [List.append_nil]; rfl
  | cons c more ih =>
      rw [List.map_cons, List.cons_append, lowerRun, ih, List.reverse_cons, List.append_assoc]
      rfl

theorem lower_run (s : Text) : Text.lower (s.map char) = (Text.lower s).map char :=
  lowerRun_run [] s

theorem lower_half (s : Text) (n : Nat) (hn : IsHalf n) (rest : List Point) :
    Text.lower (s.map char ++ half n hn :: rest) =
      (Text.lower s).map char ++ half n hn :: Text.lower rest :=
  lowerRun_half [] s n hn rest

end Point

namespace Text

/-- Lowercasing what is lowercase changes nothing, and the ends of a text stay blank or not. -/
class LawfulLower (α : Type) [Alphabet α] : Prop where
  lower_twice (t : List α) : lower (lower t) = lower t
  head_lower (t : List α) : (lower t).head?.map isBlank = t.head?.map isBlank
  last_lower (t : List α) : (lower t).getLast?.map isBlank = t.getLast?.map isBlank

instance : LawfulLower Char := ⟨lower_lower, head?_lower, getLast?_lower⟩

instance : LawfulLower Point where
  lower_twice t := by
    induction t using Point.runs with
    | run s => rw [Point.lower_run, Point.lower_run, lower_lower]
    | behind s n hn rest ih => rw [Point.lower_half, Point.lower_half, lower_lower, ih]
  head_lower t := by
    induction t using Point.runs with
    | run s =>
        rw [Point.lower_run, List.head?_map, List.head?_map, Option.map_map, Option.map_map]
        exact head?_lower s
    | behind s n hn rest ih =>
        have hhead := head?_lower s
        rw [Point.lower_half]
        cases s with
        | nil => rfl
        | cons c more =>
            cases hlower : lower (c :: more) with
            | nil => simp [hlower] at hhead
            | cons d tail =>
                rw [hlower] at hhead
                exact hhead
  last_lower t := by
    induction t using Point.runs with
    | run s =>
        rw [Point.lower_run, List.getLast?_map, List.getLast?_map, Option.map_map, Option.map_map]
        exact getLast?_lower s
    | behind s n hn rest ih =>
        have hend := congrArg (Option.getD · (isBlank (Point.half n hn))) ih
        rw [Option.getD_map, Option.getD_map] at hend
        rw [Point.lower_half, List.getLast?_append_cons, List.getLast?_append_cons,
          List.getLast?_cons, List.getLast?_cons]
        exact congrArg some hend

variable {α : Type} [Alphabet α] [LawfulLower α]

theorem lower_nil_iff (t : List α) : lower t = [] ↔ t = [] := by
  have hhead := LawfulLower.head_lower t
  constructor
  · intro h
    rw [h] at hhead
    simpa using hhead.symm
  · rintro rfl
    simpa using hhead

theorem isTight_lower {t : List α} (h : IsTight t) : IsTight (lower t) :=
  h.of_ends (LawfulLower.head_lower t) (LawfulLower.last_lower t)

end Text

end Agenda
