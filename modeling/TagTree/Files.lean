import TagTree.Text.Line

/-!
# Files

A tree of directories and files. A location is written as names with slashes between them and looked
up name by name from a directory of its own, the home, unless it begins with a slash; two dots lead
back to the directory above.

What cannot be done with a location changes nothing, except that directories which were made on the
way stay.
-/

namespace TagTree

/-- What stands in a directory under a name. -/
inductive FileEntry
  | directory
  | file (bytes : List Nat)
  deriving DecidableEq, Repr

/-- All directories and files, by the names that lead to them from the topmost directory. -/
structure Files where
  entries : List (List String × FileEntry) := []
  deriving DecidableEq, Repr, Inhabited

/-- Why something cannot be done with a location. -/
inductive FileFault
  | isDirectory
  | exists
  | notDirectory
  | missing
  | nameTooLong
  | nullByte
  deriving DecidableEq, Repr

/-- A computation on files that may fail. -/
abbrev FileOp := EStateM FileFault Files

/-- A written location. -/
structure Location where
  /-- The slashes in front; none if the names lead from the home. -/
  slashes : String
  names : List String
  deriving DecidableEq, Repr

namespace Location

/-- Reads a location; empty names and single dots lead nowhere. Exactly two slashes in front are
kept apart from one. -/
def ofText (text : String) : Location :=
  let slashes := (text.toList.takeWhile (· == '/')).length
  { slashes := if slashes = 0 then "" else if slashes = 2 then "//" else "/"
    names := ((Text.pieces '/' text.toList).map String.ofList).filter fun name ↦
      name != "" && name != "." }

/-- Names with slashes between them. -/
def joinNames : List String → String
  | [] => ""
  | [name] => name
  | name :: rest => name ++ "/" ++ joinNames rest

/-- The written form, in which the home has the given name. -/
def text (home : String) (l : Location) : String :=
  if l.slashes.isEmpty then joinNames (home :: l.names) else l.slashes ++ joinNames l.names

/-- The location without its last name. -/
def parent (l : Location) : Location :=
  { l with names := l.names.dropLast }

/-- The longest name and the longest written location, in bytes. -/
def longestName : Nat := 255

def longestText : Nat := 4095

/-- Whether a location holds a null character. -/
def hasNull (l : Location) : Bool :=
  l.names.any (·.toList.contains '\x00')

end Location

namespace Files

/-- The names that lead to the home. -/
def home : List String := ["tmp", "tmp00000000"]

def entry? (files : Files) (path : List String) : Option FileEntry :=
  if path.isPrefixOf home then some .directory else files.entries.lookup path

def put (files : Files) (path : List String) (entry : FileEntry) : Files :=
  ⟨(path, entry) :: files.entries.filter fun e ↦ e.1 != path⟩

/-- Where names lead from a directory. All but the last of them have to lead to directories. -/
def follow (files : Files) (directory : List String) :
    List String → Except FileFault (List String)
  | [] => .ok directory
  | name :: rest =>
    match files.entry? directory with
    | none => .error .missing
    | some (.file _) => .error .notDirectory
    | some .directory =>
      if Location.longestName < name.utf8ByteSize then .error .nameTooLong
      else files.follow (if name = ".." then directory.dropLast else directory ++ [name]) rest

/-- Where a location leads. There need not be anything. -/
def locate (files : Files) (l : Location) : Except FileFault (List String) :=
  if l.hasNull then .error .nullByte
  else if Location.longestText < (l.text ("/" ++ Location.joinNames home)).utf8ByteSize then
    .error .nameTooLong
  else files.follow (if l.slashes.isEmpty then home else []) l.names

/-- What stands at a location. -/
def at? (files : Files) (l : Location) : Except FileFault (Option FileEntry) := do
  return files.entry? (← files.locate l)

/-- Whether there is something at a location. -/
def contains (files : Files) (l : Location) : Except FileFault Bool :=
  match files.at? l with
  | .ok found => .ok found.isSome
  | .error .nameTooLong => .error .nameTooLong
  | .error _ => .ok false

/-- The content of a file. -/
def read (files : Files) (l : Location) : Except FileFault (List Nat) := do
  match ← files.at? l with
  | some (.file bytes) => .ok bytes
  | some .directory => .error .isDirectory
  | none => .error .missing

/-- The files after a directory was made at a location, unless there is one. -/
def withDirectory (files : Files) (l : Location) : Except FileFault Files := do
  let path ← files.locate l
  match files.entry? path with
  | some .directory => .ok files
  | some (.file _) => .error .exists
  | none => .ok (files.put path .directory)

/-- The files with other content at a location. -/
def withContent (files : Files) (l : Location) (bytes : List Nat) : Except FileFault Files := do
  let path ← files.locate l
  match files.entry? path with
  | some .directory => .error .isDirectory
  | _ => .ok (files.put path (.file bytes))

end Files

namespace FileOp

/-- Replaces the files by others or fails. -/
def change (f : Files → Except FileFault Files) : FileOp Unit := do
  match f (← get) with
  | .ok files => set files
  | .error fault => throw fault

/-- Makes a directory, and before it those that lead to it if they are missing. The names are given
from the last one to the first. -/
def makeDirectories (slashes : String) : List String → FileOp Unit
  | [] => return ()
  | last :: front => do
    let l : Location := ⟨slashes, (last :: front).reverse⟩
    match (← get).withDirectory l with
    | .ok files => set files
    | .error .missing =>
      makeDirectories slashes front
      change (·.withDirectory l)
    | .error fault => throw fault

/-- Makes the directories that lead to a location. -/
def prepare (l : Location) : FileOp Unit :=
  makeDirectories l.slashes l.parent.names.reverse

/-- Replaces the content of a file. -/
def write (l : Location) (bytes : List Nat) : FileOp Unit :=
  change (·.withContent l bytes)

end FileOp

end TagTree
