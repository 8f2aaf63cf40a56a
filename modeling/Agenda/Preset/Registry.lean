import Agenda.Filter.Token
import Agenda.Text.Entries

/-!
Saved filters: a finite map from names to filters. A name is kept without outer blanks and in
lowercase, and the names are in the order of their code points.
-/

namespace Agenda

variable {α : Type} [Alphabet α]

/-- The names ascend, so none comes twice. -/
abbrev Ascending (entries : List (List α × Filter α)) : Prop :=
  entries.Pairwise fun a b => a.1 < b.1

/-- Saved filters with their names. Names that are added are brought into the form in which they are
kept; those that filters are given with from the start stand as they are. -/
structure Presets (α : Type := Char) [Alphabet α] where
  entries : List (List α × Filter α)
  ascending : Ascending entries
  deriving DecidableEq

namespace Presets

def empty : Presets α := ⟨[], .nil⟩

def key (name : List α) : List α := Text.lower (Text.trim name)

section

variable [DecidableEq α] [DecidableLT α]

/-- The entries with one more at its place. It replaces an older one of the same name. -/
def entriesWith (name : List α) (f : Filter α) :
    List (List α × Filter α) → List (List α × Filter α)
  | [] => [(name, f)]
  | entry :: rest =>
    if name < entry.1 then (name, f) :: entry :: rest
    else if name = entry.1 then (name, f) :: rest
    else entry :: entriesWith name f rest

theorem mem_entriesWith {name : List α} {f : Filter α} {entries : List (List α × Filter α)}
    {entry : List α × Filter α} (h : entry ∈ entriesWith name f entries) :
    entry = (name, f) ∨ entry ∈ entries := by
  induction entries with
  | nil => exact .inl (List.mem_singleton.mp h)
  | cons old rest ih =>
      rw [entriesWith] at h
      split at h
      · exact List.mem_cons.mp h
      · split at h
        · exact (List.mem_cons.mp h).imp_right (List.mem_cons_of_mem _)
        · rcases List.mem_cons.mp h with rfl | hrest
          · exact .inr List.mem_cons_self
          · exact (ih hrest).imp_right (List.mem_cons_of_mem _)

theorem ascending_entriesWith {entries : List (List α × Filter α)} (h : Ascending entries)
    (name : List α) (f : Filter α) : Ascending (entriesWith name f entries) := by
  induction entries with
  | nil => exact List.pairwise_singleton _ _
  | cons old rest ih =>
      obtain ⟨hold, hrest⟩ := List.pairwise_cons.mp h
      rw [entriesWith]
      split
      · next hbefore =>
        refine List.pairwise_cons.mpr ⟨?_, h⟩
        intro entry hentry
        rcases List.mem_cons.mp hentry with rfl | hentry
        · exact hbefore
        · exact Text.lt_trans hbefore (hold entry hentry)
      · next hafter =>
        split
        · next hsame =>
          refine List.pairwise_cons.mpr ⟨?_, hrest⟩
          rw [hsame]
          exact hold
        · next hother =>
          refine List.pairwise_cons.mpr ⟨?_, ih hrest⟩
          intro entry hentry
          rcases mem_entriesWith hentry with rfl | hentry
          · exact Text.lt_of_not_lt hafter hother
          · exact hold entry hentry

/-- The saved filters with one more under a name that is taken as it is. -/
def put (p : Presets α) (name : List α) (f : Filter α) : Presets α :=
  ⟨entriesWith name f p.entries, ascending_entriesWith p.ascending name f⟩

/-- The filters that names are given with from the start; the last of several under one name
counts. -/
def ofEntries (entries : List (List α × Filter α)) : Presets α :=
  entries.foldl (fun p (name, f) => p.put name f) empty

def size (p : Presets α) : Nat := p.entries.length

def names (p : Presets α) : List (List α) := p.entries.map Prod.fst

/-- The filter that is kept under exactly this name. -/
def lookup? (p : Presets α) (name : List α) : Option (Filter α) := Text.entry? name p.entries

def has (p : Presets α) (name : List α) : Bool := (p.lookup? (key name)).isSome

/-- The filter of a name. The empty name has none. -/
def get? (p : Presets α) (name : List α) : Option (Filter α) :=
  if name = [] then none else p.lookup? (key name)

/-- Adds a filter, if it has been read: what is answered, and the saved filters from then on. The
name is looked at first and must not be blank. -/
def add (p : Presets α) (name : List α) (read : Except Fault (Filter α)) :
    Except Fault (Filter α) × Presets α :=
  if Text.isBlankText name then (.error .namelessPreset, p)
  else
    match read with
    | .error fault => (.error fault, p)
    | .ok f => (.ok f, p.put (key name) f)

/-- Adds the filter of a token. -/
def addToken (p : Presets α) (name token : List α) : Except Fault (Filter α) × Presets α :=
  p.add name (Filter.parse token)

/-- Removes a filter: whether it was there, and the saved filters from then on. -/
def remove (p : Presets α) (name : List α) : Bool × Presets α :=
  if name ≠ [] ∧ p.has name then
    (true, ⟨p.entries.filter fun entry => entry.1 ≠ key name,
      p.ascending.sublist List.filter_sublist⟩)
  else (false, p)

end

/-- Names and tokens, ascending by name. -/
def tokens (p : Presets α) : List (List α × List α) :=
  p.entries.map fun (name, f) => (name, f.token)

end Presets

end Agenda
