import Typings.Files.Tree
import Typings.Journal
import Typings.Toml.Document

/-!
# Configuration

The defaults of a directory: where classes and sources are, and which tool lists classes. They stand in the table
`javadecl` of the file `.javadecl.toml`, or in the table `tool.javadecl` of `pyproject.toml` when there is no first file
or it cannot be read.
-/

namespace Typings

/-- The defaults of a directory. -/
structure Configuration where
  classpath : List String := []
  sourcepath : List String := []
  javap? : Option String := none
  deriving DecidableEq, Repr

/-- Why the configuration of a directory cannot be used. -/
inductive ConfigurationError
  | notStrings (path : Files.Path) (key : String)
  | notString (path : Files.Path) (key : String)
  /-- Something other than a table stands where the settings should be. -/
  | notTable
  /-- The bytes of a file are not UTF-8. -/
  | notText
  /-- A file has an integer with more digits than are read. -/
  | tooManyDigits
  deriving DecidableEq, Repr

/-- The text of the error, where it has one. -/
def ConfigurationError.message? : ConfigurationError → Option String
  | notStrings path key => some (path.text ++ ": '" ++ key ++ "' must be a string or a list of strings")
  | notString path key => some (path.text ++ ": '" ++ key ++ "' must be a string")
  | notTable | notText | tooManyDigits => none

namespace Configuration

open Toml (Table Value)

/-- The strings that a value lists; a string by itself is a list of one. -/
def stringsOf? : Value → Option (List String)
  | .string s => some [s]
  | .array items => items.mapM fun
    | .string s => some s
    | _ => none
  | _ => none

/-- A setting that lists strings. -/
def strings (path : Files.Path) (key : String) (settings : Table) : Except ConfigurationError (List String) :=
  match settings.lookup key with
  | none => .ok []
  | some v => (stringsOf? v).elim (.error (.notStrings path key)) .ok

/-- A setting that is a string. -/
def string? (path : Files.Path) (key : String) (settings : Table) : Except ConfigurationError (Option String) :=
  match settings.lookup key with
  | none => .ok none
  | some (.string s) => .ok (some s)
  | some _ => .error (.notString path key)

/-- The entry of a table that has to be a table itself, if it is there. -/
def tableIn? (name : String) (t : Table) : Except ConfigurationError (Option Table) :=
  match t.lookup name with
  | none => .ok none
  | some (.table inner) => .ok (some inner)
  | some _ => .error .notTable

/-- The configuration in a table of settings. -/
def ofSettings (path : Files.Path) (settings : Table) : Except ConfigurationError Configuration := do
  let javap? ← string? path "javap" settings
  let classpath ← strings path "classpath" settings
  let sourcepath ← strings path "sourcepath" settings
  return { classpath := classpath, sourcepath := sourcepath, javap? := javap? }

variable {σ : Type}

/-- Reads a file. There is no document if there is no file or it cannot be read. -/
def document? (tree : Files.FileTree) (path : Files.Path) :
    Action σ ConfigurationError (Option Table) := do
  match tree.find? path with
  | none => return none
  | some .directory =>
    Action.report (.settingsIgnored path.text (Files.FileError.isDirectory.message path.text))
    return none
  | some (.file bytes) =>
    match Toml.ofBytes bytes with
    | .ok t => return some t
    | .error (.malformed message) =>
      Action.report (.settingsIgnored path.text message)
      return none
    | .error .notText => throw .notText
    | .error .tooManyDigits => throw .tooManyDigits

/-- The file for the settings alone. -/
def settingsFile : Files.Path := { parts := [".javadecl.toml"] }

/-- The file that has the settings beside others. -/
def projectFile : Files.Path := { parts := ["pyproject.toml"] }

/-- The configuration of the project file. -/
def loadProject (tree : Files.FileTree) (path : Files.Path) :
    Action σ ConfigurationError Configuration := do
  match ← document? tree path with
  | none => return {}
  | some t =>
    let tools ← Action.ofExcept (tableIn? "tool" t)
    match (tools.getD []).lookup "javadecl" with
    | none => return {}
    | some v =>
      Action.report (.settingsUsed ("[tool.javadecl] from " ++ path.text))
      match v with
      | .table settings => Action.ofExcept (ofSettings path settings)
      | _ => throw .notTable

/-- The configuration of a directory. -/
def load (tree : Files.FileTree) (directory : Files.Path) :
    Action σ ConfigurationError Configuration := do
  let path := directory.join settingsFile
  match ← document? tree path with
  | none => loadProject tree (directory.join projectFile)
  | some t =>
    Action.report (.settingsUsed path.text)
    let settings ← Action.ofExcept (tableIn? "javadecl" t)
    Action.ofExcept (ofSettings path (settings.getD []))

end Configuration

end Typings
