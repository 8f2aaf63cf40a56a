import Agenda.Files.Path
import Agenda.Text.Utf8

/-!
File trees: folders and files below a working folder, as a value, where each file has one place and
no entry is a link. Operations on a tree answer with the tree that they leave behind.
-/

namespace Agenda.Files

inductive Entry where
  | folder
  | file (content : ByteArray)

/-- Entries with their places. In a place the parts that lead upwards come first, which they do
only in places outside the working folder. The folders from the working folder up and the roots
have no entries. -/
structure Tree where
  entries : List (Path × Entry)

/-- A step that changes a tree. -/
inductive Step where
  | makeFolder (p : Path)
  | openFile (p : Path)
  | move (source target : Path)

/-- What a disk does of its own: it can refuse a step that a tree admits, and it can break off the
writing of some bytes, of which a number is written then. -/
structure Disk where
  refuses : Tree → Step → Option PathTrouble
  breaksOff : Tree → Path → ByteArray → Option (Nat × PathTrouble)

/-- A disk that does all that a tree admits. -/
def Disk.calm : Disk := ⟨fun _ _ => none, fun _ _ _ => none⟩

namespace Tree

def empty : Tree := ⟨[]⟩

def upward : Text := ['.', '.']

/-- The place is a root, the working folder or a folder above that. -/
def isTop (place : Path) : Bool := place.parts.all (· == upward)

/-- The folder that a place is in. That of a root is the root. -/
def above (place : Path) : Path :=
  if place.root = [] ∧ isTop place then place.child upward else place.parent

def entryAt? (tree : Tree) (place : Path) : Option Entry :=
  if isTop place then some .folder
  else (tree.entries.find? fun entry => entry.1 == place).map Prod.snd

/-- The most bytes that a part of a path has, and that a whole path has. -/
def maxPartBytes : Nat := 255
def maxPathBytes : Nat := 4095

/-- The place that is reached from a folder by some parts. All but the last must lead to
folders, and a part of two dots leads upwards. -/
def walk (tree : Tree) (here : Path) : List Text → Except PathTrouble Path
  | [] => .ok here
  | part :: rest =>
    match tree.entryAt? here with
    | none => .error .missing
    | some (.file _) => .error .notFolder
    | some .folder =>
      if part = upward then tree.walk (above here) rest
      else if maxPartBytes < Text.byteCount part then .error .tooLong
      else tree.walk (here.child part) rest

def place (tree : Tree) (p : Path) : Except PathTrouble Path :=
  if p.text.contains '\x00' then .error .nullByte
  else if maxPathBytes < Text.byteCount p.text then .error .tooLong
  else tree.walk ⟨p.root, []⟩ p.parts

/-- The entry that a path leads to, if it can be followed. -/
def find (tree : Tree) (p : Path) : Except PathTrouble (Option Entry) := do
  return tree.entryAt? (← tree.place p)

/-- There is a file or a folder at the path. Most paths that cannot be followed lead to nothing,
but one that is too long cannot be asked for. -/
def has (tree : Tree) (p : Path) : Except Fault Bool :=
  match tree.find p with
  | .ok found => .ok found.isSome
  | .error .tooLong => .error (.onPath .tooLong p.text none)
  | .error _ => .ok false

def isFolder (tree : Tree) (p : Path) : Bool :=
  match tree.find p with
  | .ok (some .folder) => true
  | _ => false

/-- The entries with one more, which takes the place of an older one. -/
def put (place : Path) (entry : Entry) : List (Path × Entry) → List (Path × Entry)
  | [] => [(place, entry)]
  | old :: rest => if old.1 = place then (place, entry) :: rest else old :: put place entry rest

def set (tree : Tree) (place : Path) (entry : Entry) : Tree := ⟨put place entry tree.entries⟩

def erase (tree : Tree) (place : Path) : Tree :=
  ⟨tree.entries.filter fun entry => entry.1 ≠ place⟩

/-- The tree with a new folder, whose parent must be there. -/
def makeFolder (disk : Disk) (tree : Tree) (p : Path) : Except PathTrouble Tree := do
  let place ← tree.place p
  match tree.entryAt? place with
  | some _ => throw .exists
  | none =>
    match tree.entryAt? (above place) with
    | some .folder =>
      match disk.refuses tree (.makeFolder p) with
      | some trouble => throw trouble
      | none => return tree.set place .folder
    | some (.file _) => throw .notFolder
    | none => throw .missing

/-- Makes a folder at a path that is given from its last part up, and the folders above it.
Folders that are there already stay, and a failure leaves those that have been made. -/
def makeFoldersUp (disk : Disk) (tree : Tree) (root : Text) :
    List Text → Except Fault Unit × Tree
  | [] => (.ok (), tree)
  | part :: above =>
    let p : Path := ⟨root, (part :: above).reverse⟩
    let settle (tree : Tree) (trouble : PathTrouble) : Except Fault Unit × Tree :=
      (if tree.isFolder p then .ok () else .error (.onPath trouble p.text none), tree)
    match tree.makeFolder disk p with
    | .ok made => (.ok (), made)
    | .error .missing =>
      match tree.makeFoldersUp disk root above with
      | (.error fault, parents) => (.error fault, parents)
      | (.ok _, parents) =>
        match parents.makeFolder disk p with
        | .ok made => (.ok (), made)
        | .error trouble => settle parents trouble
    | .error trouble => settle tree trouble

/-- Makes a folder at a path, and the folders above it. -/
def makeFolders (disk : Disk) (tree : Tree) (p : Path) : Except Fault Unit × Tree :=
  tree.makeFoldersUp disk p.root p.parts.reverse

def read (tree : Tree) (p : Path) : Except Fault ByteArray :=
  match tree.find p with
  | .ok (some (.file content)) => .ok content
  | .ok (some .folder) => .error (.onPath .isFolder p.text none)
  | .ok none => .error (.onPath .missing p.text none)
  | .error trouble => .error (.onPath trouble p.text none)

/-- The place of a file that can be opened for writing, new or old. Its folder must be there. -/
def openFile (disk : Disk) (tree : Tree) (p : Path) : Except Fault Path :=
  let trouble (t : PathTrouble) : Except Fault Path := .error (.onPath t p.text none)
  match tree.place p with
  | .error t => trouble t
  | .ok place =>
    match tree.entryAt? place, tree.entryAt? (above place) with
    | some .folder, _ => trouble .isFolder
    | _, some .folder =>
      match disk.refuses tree (.openFile p) with
      | some t => trouble t
      | none => .ok place
    | _, some (.file _) => trouble .notFolder
    | _, none => trouble .missing

/-- Writes a content behind what a file keeps. A file that can be opened is there from then on, also
if there turns out to be no content, and a write that breaks off leaves its first bytes. -/
def writeBehind (disk : Disk) (tree : Tree) (p : Path) (kept : ByteArray)
    (content : Except Fault ByteArray) : Except Fault Unit × Tree :=
  match tree.openFile disk p with
  | .error fault => (.error fault, tree)
  | .ok place =>
    let left (written : ByteArray) : Tree := tree.set place (.file (kept ++ written))
    match content with
    | .error fault => (.error fault, left .empty)
    | .ok bytes =>
      match disk.breaksOff tree p bytes with
      | some (n, trouble) => (.error (.inWriting trouble), left (bytes.extract 0 n))
      | none => (.ok (), left bytes)

/-- Writes a content to a file, in place of an older one. -/
def write (disk : Disk) (tree : Tree) (p : Path) (content : Except Fault ByteArray) :
    Except Fault Unit × Tree :=
  tree.writeBehind disk p .empty content

/-- Writes a content to the end of a file, which is made if it is not there. -/
def append (disk : Disk) (tree : Tree) (p : Path) (content : ByteArray) :
    Except Fault Unit × Tree :=
  tree.writeBehind disk p ((tree.read p).toOption.getD .empty) (.ok content)

/-- The tree with a file moved to another path, over the file that is there if one is. The other
path must not end upwards. -/
def move (disk : Disk) (tree : Tree) (source target : Path) : Except Fault Tree :=
  let trouble (t : PathTrouble) : Except Fault Tree :=
    .error (.onPath t source.text (some target.text))
  match tree.place source, tree.place target with
  | .ok start, .ok stop =>
    if target.parts.getLast? = some upward then trouble .busy
    else match tree.entryAt? start, tree.entryAt? stop with
    | some (.file _), some .folder => trouble .isFolder
    | some entry, _ =>
      match disk.refuses tree (.move source target) with
      | some t => trouble t
      | none => .ok (if start = stop then tree else (tree.erase start).set stop entry)
    | none, _ => trouble .missing
  | .error t, _ => trouble t
  | _, .error t => trouble t

/-- The place is below the working folder. -/
def isInside (place : Path) : Bool := place.root == [] && place.parts.head? != some upward

/-- The files below the working folder with their paths, in the order of these. -/
def files (tree : Tree) : List (Text × ByteArray) :=
  let found := tree.entries.filterMap fun (place, entry) =>
    match entry with
    | .file content => if isInside place then some (place.text, content) else none
    | .folder => none
  found.mergeSort fun a b => !decide (b.1 < a.1)

end Tree

end Agenda.Files
