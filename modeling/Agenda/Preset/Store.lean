import Agenda.Files.Tree
import Agenda.Json.Reader
import Agenda.Json.Writer
import Agenda.Log.Record
import Agenda.Preset.Registry
import Agenda.Text.Utf8

/-!
Saved filters in a file: a JSON object from names to tokens. A file that is no such object is
taken for an empty one. The file is written beside its place and then moved there.
-/

namespace Agenda.Presets

open Files Json Log

variable {α : Type} [Alphabet α]

/-- An outcome, with the records that were made on the way. -/
structure Logged (β : Type) where
  result : Except Fault β
  log : List Record

def addedRecord (name : List α) (f : Filter α) : Record :=
  Source.presets.record debug
    ("Preset saved name=".toList ++ Text.shown (key name) ++ " token=".toList ++
      Text.quoted f.token)

section

variable [DecidableEq α] [DecidableLT α]

/-- The saved filters with those of the fields of an object, in order. Fields that are no texts
and fields of blank names are left out. A token that is refused ends the reading. -/
def addFields (p : Presets α) : List (List α × Value α) → Logged (Presets α)
  | [] => ⟨.ok p, []⟩
  | (name, .string token) :: rest =>
    if Text.isBlankText name then addFields p rest
    else
      match p.addToken name token with
      | (.error fault, _) => ⟨.error fault, []⟩
      | (.ok f, added) =>
        let more := addFields added rest
        ⟨more.result, addedRecord name f :: more.log⟩
  | _ :: rest => addFields p rest

/-- The JSON value that bytes encode, nested in so many levels at most. -/
def decode? (nesting : Nat) (content : ByteArray) : Option (Value α) :=
  (Text.ofBytes? content).bind (read? nesting)

def failedRecord (path : Text) : Record :=
  Source.presets.record error ("Failed to load filter presets from ".toList ++ path)

/-- The saved filters of a file's content. -/
def ofContent (nesting : Nat) (path : Text) (content : ByteArray) : Logged (Presets α) :=
  match decode? nesting content with
  | none => ⟨.ok empty, [failedRecord path]⟩
  | some (.object fields) =>
    let loaded := addFields empty fields
    match loaded.result with
    | .error _ => loaded
    | .ok p =>
      ⟨.ok p, loaded.log ++ [Source.presets.record info
        ("Loaded filter presets: ".toList ++ Text.ofNat p.size ++ " from ".toList ++ path)]⟩
  | some _ =>
    ⟨.ok empty, [Source.presets.record warning
      ("Ignoring filter presets file ".toList ++ path ++ ": expected a JSON object".toList)]⟩

/-- The saved filters of the file at a path. A missing file holds none. -/
def load (nesting : Nat) (tree : Tree) (path : Path) : Logged (Presets α) :=
  match tree.has path with
  | .error fault => ⟨.error fault, []⟩
  | .ok false => ⟨.ok empty, []⟩
  | .ok true =>
    match tree.read path with
    | .ok content => ofContent nesting path.text content
    | .error _ => ⟨.ok empty, [failedRecord path.text]⟩

end

/-- The bytes of a file that holds the saved filters, unless a name or a token cannot be encoded. -/
def content (p : Presets α) : Except Fault ByteArray := Text.encode (writeFields p.tokens)

def draftSuffix : Text := ".tmp".toList

/-- Writes the saved filters to a path: the folder first, then a file beside the path, which is
then moved there. A step that fails leaves what the steps before it have done. -/
def save (p : Presets α) (disk : Disk) (tree : Tree) (path : Path) : Except Fault Unit × Tree :=
  match tree.makeFolders disk path.parent with
  | (.error fault, prepared) => (.error fault, prepared)
  | (.ok _, prepared) =>
    match path.withSuffix draftSuffix with
    | .error fault => (.error fault, prepared)
    | .ok draft =>
      match prepared.write disk draft p.content with
      | (.error fault, written) => (.error fault, written)
      | (.ok _, written) =>
        match written.move disk draft path with
        | .error fault => (.error fault, written)
        | .ok moved => (.ok (), moved)

def savedRecord (p : Presets α) (path : Path) : Record :=
  Source.presets.record info
    ("Saved filter presets: ".toList ++ Text.ofNat p.size ++ " to ".toList ++ path.text)

end Agenda.Presets
