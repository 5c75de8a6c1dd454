import Typings.Files.Path
import Typings.Text.Quoted

/-!
# File trees

The files and directories that a run sees and changes. A location is the list of names from the root; paths that start
nowhere in particular start at the working directory.
-/

namespace Typings.Files

/-- Why a file cannot be read or written. -/
inductive FileError
  | notFound | alreadyExists | notDirectory | isDirectory | nameTooLong
  /-- The path has a zero character, which no path can. -/
  | zeroCharacter
  deriving DecidableEq, Repr

namespace FileError

/-- The system's number and text for the error; the system is not asked about a path with a zero character. -/
def code? : FileError → Option (Nat × String)
  | notFound => some (2, "No such file or directory")
  | alreadyExists => some (17, "File exists")
  | notDirectory => some (20, "Not a directory")
  | isDirectory => some (21, "Is a directory")
  | nameTooLong => some (36, "File name too long")
  | zeroCharacter => none

/-- The text of the error for a path. -/
def message (e : FileError) (path : String) : String :=
  match e.code? with
  | some (number, text) => "[Errno " ++ toString number ++ "] " ++ text ++ ": " ++ Text.Quoted.encode path
  | none => "embedded null byte"

end FileError

/-- What stands at a location. -/
inductive Entry
  | file (bytes : ByteArray)
  | directory

instance : DecidableEq Entry
  | .file a, .file b =>
    decidable_of_iff (a.data = b.data) ⟨fun h => congrArg Entry.file (ByteArray.ext h), fun h => by cases h; rfl⟩
  | .directory, .directory => isTrue rfl
  | .file _, .directory => isFalse nofun
  | .directory, .file _ => isFalse nofun

/-- The names from the root to a file or directory. -/
abbrev Location := List String

/-- The longest name that a file or directory can have, in bytes. -/
def nameLimit : Nat := 255

/-- Files and directories with their locations; a newer entry hides an older one. -/
structure FileTree where
  workingDirectory : Location
  entries : List (Location × Entry) := []

namespace FileTree

/-- What stands at a location. The root is a directory. -/
def entry? (t : FileTree) (l : Location) : Option Entry :=
  if l = [] then some .directory else t.entries.lookup l

/-- Puts an entry at a location. -/
def put (l : Location) (e : Entry) (t : FileTree) : FileTree :=
  { t with entries := (l, e) :: t.entries }

/-- Goes down from a location by the parts of a path. Everything but the last part has to be a directory. -/
def walk (t : FileTree) (l : Location) : List String → Except FileError Location
  | [] => .ok l
  | part :: parts =>
    match t.entry? l with
    | none => .error .notFound
    | some (.file _) => .error .notDirectory
    | some .directory =>
      if part = ".." then walk t l.dropLast parts
      else if nameLimit < part.utf8ByteSize then .error .nameTooLong
      else walk t (l ++ [part]) parts

/-- The location that a path leads to, whether or not something stands there. -/
def locate (t : FileTree) (p : Path) : Except FileError Location :=
  if p.text.toList.contains '\x00' then .error .zeroCharacter
  else t.walk (if p.anchor = .here then t.workingDirectory else []) p.parts

/-- What a path leads to. -/
def find? (t : FileTree) (p : Path) : Option Entry :=
  match t.locate p with
  | .ok l => t.entry? l
  | .error _ => none

/-- Whether a path leads to a directory. -/
def isDirectory (t : FileTree) (p : Path) : Bool :=
  match t.find? p with
  | some .directory => true
  | _ => false

/-- The contents of a file. -/
def read (t : FileTree) (p : Path) : Except FileError ByteArray := do
  match t.entry? (← t.locate p) with
  | some (.file bytes) => return bytes
  | some .directory => throw .isDirectory
  | none => throw .notFound

/-- Makes a directory, whose parent has to exist. -/
def makeDirectory (p : Path) (t : FileTree) : Except FileError FileTree := do
  let l ← t.locate p
  match t.entry? l with
  | some _ => throw .alreadyExists
  | none => return t.put l .directory

/-- Writes a file, whose directory has to exist. -/
def write (p : Path) (bytes : ByteArray) (t : FileTree) : Except FileError FileTree := do
  let l ← t.locate p
  match t.entry? l with
  | some .directory => throw .isDirectory
  | _ => return t.put l (.file bytes)

/-- The tree with every directory that leads to a location. -/
def putDirectories (l : Location) (t : FileTree) : FileTree :=
  (List.range (l.length + 1)).foldl
    (fun t n => if (t.entry? (l.take n)).isSome then t else t.put (l.take n) .directory) t

/-- The tree that has the given files and directories in the working directory. -/
def ofEntries (workingDirectory : Location) (entries : List (Path × Entry)) : FileTree :=
  let empty : FileTree := { workingDirectory := workingDirectory }
  entries.foldl (fun t (p, e) =>
    let l := workingDirectory ++ p.parts
    (t.putDirectories l.dropLast).put l e) (empty.putDirectories workingDirectory)

/-- The entries that are not hidden by newer ones. -/
def current (t : FileTree) : List (Location × Entry) :=
  let rec go (seen : List Location) : List (Location × Entry) → List (Location × Entry)
    | [] => []
    | (l, e) :: rest => if l ∈ seen then go seen rest else (l, e) :: go (l :: seen) rest
  go [] t.entries

/-- What stands below the directory that a path leads to, at any depth, in the order of the names on the way there. -/
def below (t : FileTree) (p : Path) : List (List String × Entry) :=
  match t.locate p with
  | .error _ => []
  | .ok l =>
    if t.isDirectory p then
      let inside := t.current.filterMap fun (k, e) =>
        if l.isPrefixOf k && k.length ≠ l.length then some (k.drop l.length, e) else none
      inside.mergeSort fun a b => !decide (b.1 < a.1)
    else []

end FileTree

end Typings.Files
