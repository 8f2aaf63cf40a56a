import Agenda.Text.Lower

/-!
Alphabets. A text of this library is a list of characters. Texts that come from elsewhere can hold
halves of surrogate pairs that stand alone, which are code points but no characters. What is defined
for both kinds of text is defined for any alphabet.
-/

namespace Agenda

/-- The numbers of the halves of surrogate pairs. -/
abbrev IsHalf (n : Nat) : Prop := 0xd800 ≤ n ∧ n < 0xe000

/-- A code point: a character, or half of a surrogate pair that stands alone. -/
inductive Point where
  | char (c : Char)
  | half (n : Nat) (isHalf : IsHalf n)
  deriving DecidableEq

namespace Point

def number : Point → Nat
  | char c => c.toNat
  | half n _ => n

def char? : Point → Option Char
  | char c => some c
  | half _ _ => none

/-- The character itself, or the sign that stands for what is no character. -/
def shown : Point → Char
  | char c => c
  | half _ _ => '\ufffd'

instance : LT Point := ⟨fun a b => a.number < b.number⟩

instance : DecidableLT Point := fun a b => inferInstanceAs (Decidable (a.number < b.number))

theorem number_injective {a b : Point} (h : a.number = b.number) : a = b := by
  have hchar : ∀ {c : Char} {n : Nat}, IsHalf n → c.toNat ≠ n := by
    rintro c n ⟨hlow, hhigh⟩ rfl
    have hvalid := c.valid
    simp only [UInt32.isValidChar, Nat.isValidChar] at hvalid
    change 0xd800 ≤ c.val.toNat at hlow
    change c.val.toNat < 0xe000 at hhigh
    omega
  cases a with
  | char c =>
      cases b with
      | char d => exact congrArg char (Char.toNat_inj.mp h)
      | half n hn => exact absurd h (hchar hn)
  | half n hn =>
      cases b with
      | char d => exact absurd h.symm (hchar hn)
      | half m hm =>
          cases h
          rfl

/-- The lowercase of code points behind a run of characters, which is given in reverse. A half is no
letter and is not passed over, so the run ends there. -/
def lowerRun (run : Text) : List Point → List Point
  | [] => (Text.lowerFrom false run.reverse).map char
  | char c :: rest => lowerRun (c :: run) rest
  | half n hn :: rest =>
    (Text.lowerFrom false run.reverse).map char ++ half n hn :: lowerRun [] rest

end Point

/-- What texts are made of: code points in their order, each of which is a character or not. -/
class Alphabet (α : Type) extends LT α where
  point : α → Point
  /-- A code point as one of this alphabet, or as what stands for it here. -/
  ofPoint : Point → α
  lower : List α → List α
  ofPoint_point (a : α) : ofPoint (point a) = a
  point_ofPoint (c : Char) : point (ofPoint (.char c)) = .char c
  lt_iff (a b : α) : a < b ↔ (point a).number < (point b).number

instance : Alphabet Char where
  point := .char
  ofPoint := Point.shown
  lower := Text.lowerFrom false
  ofPoint_point _ := rfl
  point_ofPoint _ := rfl
  lt_iff _ _ := UInt32.lt_iff_toNat_lt

instance : Alphabet Point where
  point := id
  ofPoint := id
  lower := Point.lowerRun []
  ofPoint_point _ := rfl
  point_ofPoint _ := rfl
  lt_iff _ _ := Iff.rfl

namespace Alphabet

variable {α : Type} [Alphabet α]

def char? (a : α) : Option Char := (point a).char?

def ofChar (c : Char) : α := ofPoint (.char c)

/-- The rest of a text behind a sign that comes first. -/
def behind? (sign : Char) : List α → Option (List α)
  | [] => none
  | c :: rest => if char? c = some sign then some rest else none

theorem point_injective {a b : α} (h : (point a).number = (point b).number) : a = b := by
  rw [← ofPoint_point a, ← ofPoint_point b, Point.number_injective h]

@[simp] theorem char?_char (c : Char) : char? c = some c := rfl

@[simp] theorem ofChar_char (c : Char) : (ofChar c : Char) = c := rfl

theorem char?_eq_some_iff {a : α} {c : Char} : char? a = some c ↔ a = ofChar c := by
  constructor
  · intro h
    cases hpoint : point a with
    | char d =>
        rw [char?, hpoint, Point.char?, Option.some.injEq] at h
        rw [ofChar, ← h, ← hpoint, ofPoint_point]
    | half n hn =>
        rw [char?, hpoint] at h
        cases h
  · rintro rfl
    rw [char?, ofChar, point_ofPoint, Point.char?]

theorem behind?_eq_some_iff {sign : Char} {s rest : List α} :
    behind? sign s = some rest ↔ s = ofChar sign :: rest := by
  cases s with
  | nil => simp [behind?]
  | cons c s =>
      rw [behind?, List.cons.injEq, ← char?_eq_some_iff]
      split
      · next hsign => simp [hsign]
      · next hsign => simp [hsign]

end Alphabet

namespace Text

variable {α : Type} [Alphabet α]

/-- A text in any alphabet. -/
def spell (t : Text) : List α := t.map Alphabet.ofChar

def lower (t : List α) : List α := Alphabet.lower t

@[simp] theorem spell_char (t : Text) : (spell t : Text) = t := List.map_id t

theorem lower_char (t : Text) : lower t = lowerFrom false t := rfl

private theorem irrefl_points : Std.Irrefl (α := α) (· < ·) :=
  ⟨fun a h => Nat.lt_irrefl _ ((Alphabet.lt_iff a a).mp h)⟩

private theorem trans_points {a b c : α} (h : a < b) (h' : b < c) : a < c := by
  rw [Alphabet.lt_iff] at h h' ⊢
  exact Nat.lt_trans h h'

theorem lt_irrefl (t : List α) : ¬ t < t :=
  have := irrefl_points (α := α)
  List.lt_irrefl t

theorem lt_trans {s t u : List α} (h : s < t) (h' : t < u) : s < u :=
  have : Trans (α := α) (· < ·) (· < ·) (· < ·) := ⟨trans_points⟩
  List.lt_trans h h'

theorem lt_of_not_lt {s t : List α} (h : ¬ s < t) (hne : s ≠ t) : t < s := by
  have := irrefl_points (α := α)
  have : Trans (α := α) (· < ·) (· < ·) (· < ·) := ⟨trans_points⟩
  have : Std.Asymm (α := α) (· < ·) :=
    ⟨fun _ _ hab hba => irrefl_points.irrefl _ (trans_points hab hba)⟩
  have : Std.Trichotomous (α := α) (· < ·) := ⟨fun a b hab hba => by
    rw [Alphabet.lt_iff] at hab hba
    exact Alphabet.point_injective (by omega)⟩
  have hlists : Std.Trichotomous (α := List α) (· < ·) := inferInstance
  exact (hlists.rel_or_eq_or_rel_swap.resolve_left h).resolve_left hne

end Text

end Agenda
