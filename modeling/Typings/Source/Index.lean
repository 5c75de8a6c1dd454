import Typings.Client
import Typings.Files.Tree
import Typings.Source.Unit

/-!
# The index of Java sources

The classes, interfaces and enums that the Java files below some directories declare, by their binary names. Each knows
the types around it and the package and imports of its file. A file that is not accepted is left out; a file that ends
too early keeps the whole index from being made.
-/

namespace Typings.Source

/-- The package and imports of a file. -/
structure FileScope where
  /-- The package name, empty in the unnamed package. -/
  package : String := ""
  /-- The imports of one type, with the simple name of each; of equal simple names the first one counts. -/
  single : List (String × String) := []
  /-- The packages and types whose types are imported on demand. -/
  onDemand : List String := []
  deriving DecidableEq, Repr

/-- The scope of a file. Of imports with equal simple names the last one counts, and static imports name no types. -/
def FileScope.ofUnit (u : CompilationUnit) : FileScope :=
  let imports := u.imports.filter (!·.isStatic)
  { package := ".".intercalate u.package
    single := ((imports.filter (!·.isOnDemand)).map fun i => (i.path.getLastD "", ".".intercalate i.path)).reverse
    onDemand := (imports.filter (·.isOnDemand)).map fun i => ".".intercalate i.path }

/-- The name of a type or subpackage in a package. -/
def FileScope.qualify (f : FileScope) (name : String) : String :=
  if f.package = "" then name else f.package ++ "." ++ name

/-- A type with its binary name. -/
structure NamedType where
  name : String
  header : Header
  deriving DecidableEq, Repr

/-- An indexed type with the types around it, innermost first, and its file. -/
structure SourceType extends NamedType where
  enclosing : List NamedType := []
  file : FileScope
  deriving DecidableEq, Repr

/-- The type and the types around it, innermost first. -/
def SourceType.chain (t : SourceType) : List NamedType :=
  t.toNamedType :: t.enclosing

mutual

/-- A type and the types in it, at any depth, given its binary name. -/
def typesIn (file : FileScope) (enclosing : List NamedType) (name : String) : TypeDeclaration → List SourceType
  | .mk header nested =>
    let t : NamedType := ⟨name, header⟩
    { toNamedType := t, enclosing := enclosing, file := file } :: typesNestedIn file (t :: enclosing) name nested

/-- The types in several types that are nested in the type of the given name. -/
def typesNestedIn (file : FileScope) (enclosing : List NamedType) (name : String) :
    List TypeDeclaration → List SourceType
  | [] => []
  | .mk header nested :: ts =>
    typesIn file enclosing (name ++ "$" ++ header.name) (.mk header nested) ++ typesNestedIn file enclosing name ts

end

/-- The types of a file in their order. -/
def CompilationUnit.sourceTypes (u : CompilationUnit) : List SourceType :=
  let file := FileScope.ofUnit u
  u.types.flatMap fun t => typesIn file [] (file.qualify t.header.name) t

/-- The indexed types, the ones indexed last first. A type hides the earlier types of its name. -/
structure Index where
  types : List SourceType := []
  deriving Repr

namespace Index

/-- The type of a binary name. -/
def find? (index : Index) (name : String) : Option SourceType :=
  index.types.find? (·.name = name)

/-- Whether a binary name is indexed. -/
def contains (index : Index) (name : String) : Bool :=
  (index.find? name).isSome

/-- The indexed binary names, each once. -/
def names (index : Index) : List String :=
  (index.types.map (·.name)).eraseDups

/-- Adds types in their order. -/
def insert (index : Index) (types : List SourceType) : Index :=
  ⟨types.reverse ++ index.types⟩

end Index

/-- The index as it comes from files, with what happened on the way. -/
structure Indexing where
  index : Index := {}
  files : Nat := 0
  events : List Event := []

namespace Indexing

/-- Adds a file or directory with its path. -/
def addEntry (s : Indexing) (path : Files.Path) : Files.Entry → Except (LoadError × List Event) Indexing
  | .directory =>
    .ok { s with events := s.events ++ [.unreadable path.text (Files.FileError.isDirectory.message path.text)] }
  | .file bytes =>
    match CompilationUnit.ofBytes bytes with
    | .ok u => .ok { s with index := s.index.insert u.sourceTypes, files := s.files + 1 }
    | .error .rejected => .ok { s with events := s.events ++ [.skipped path.text] }
    | .error .headerTruncated => .error (.headerTruncated, s.events)
    | .error .operandTruncated => .error (.operandTruncated, s.events)

end Indexing

/-- The names of files that declare no types. -/
def typelessFiles : List String := ["package-info.java", "module-info.java"]

/-- Whether a name is that of a Java file with types. -/
def isJavaFile (name : String) : Bool :=
  ".java".toList.isSuffixOf name.toList && !typelessFiles.contains name

/-- The Java files below a directory with their paths. -/
def javaFiles (tree : Files.FileTree) (root : Files.Path) : List (Files.Path × Files.Entry) :=
  ((tree.below root).filter fun (parts, _) => isJavaFile (parts.getLastD "")).map fun (parts, e) =>
    ({ root with parts := root.parts ++ parts }, e)

/-- Java sources that are indexed or could not be, and what happened on the way. -/
structure Sources where
  result : Except LoadError Index
  events : List Event := []

/-- Indexes the Java files below some directories. -/
def Sources.ofRoots (tree : Files.FileTree) (roots : List Files.Path) : Sources :=
  match (roots.flatMap (javaFiles tree)).foldlM (fun s (path, e) => s.addEntry path e) ({} : Indexing) with
  | .ok s => ⟨.ok s.index, s.events ++ [.indexed s.files s.index.names.length]⟩
  | .error (e, events) => ⟨.error e, events⟩

end Typings.Source
