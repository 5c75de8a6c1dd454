import Typings.Client
import Typings.Source.Erasure

/-!
# Resolution of names in Java sources

A simple name is looked for in levels: the types nested in the scope and in the types around it, the imports of single
types, the package, the indexed types that are imported on demand, and the classes that need no import. What none of
them has is asked of another client under each import on demand, and otherwise is taken for a class of the package.
-/

namespace Typings.Source

/-- The classes of `java.lang` that need no import. -/
def implicitlyImported : List String :=
  ["Appendable", "ArithmeticException", "ArrayIndexOutOfBoundsException", "AutoCloseable", "Boolean", "Byte",
   "CharSequence", "Character", "Class", "ClassCastException", "ClassLoader", "ClassNotFoundException",
   "CloneNotSupportedException", "Cloneable", "Comparable", "Deprecated", "Double", "Enum", "Error", "Exception",
   "Float", "FunctionalInterface", "IllegalArgumentException", "IllegalStateException", "IndexOutOfBoundsException",
   "Integer", "InterruptedException", "Iterable", "Long", "Math", "Module", "NullPointerException", "Number",
   "NumberFormatException", "Object", "Override", "Package", "Process", "ProcessBuilder", "Readable", "Record",
   "Runnable", "Runtime", "RuntimeException", "SafeVarargs", "SecurityException", "Short", "StackTraceElement",
   "String", "StringBuffer", "StringBuilder", "SuppressWarnings", "System", "Thread", "ThreadLocal", "Throwable",
   "UnsupportedOperationException", "Void"]

namespace Index

/-- The binary names that a canonical name can have, with as few nested classes as possible first. -/
def binaryNames (canonical : String) : List String :=
  let parts := Java.segments canonical
  (List.range parts.length).map fun nested =>
    Java.nestedName (parts.take (parts.length - nested)) (parts.drop (parts.length - nested))

/-- The binary name of the indexed type with the given canonical name. -/
def binaryName? (index : Index) (canonical : String) : Option String :=
  (binaryNames canonical).find? index.contains

/-- The binary name for a canonical name: that of the indexed type, or else the conventional one. -/
def binaryName (index : Index) (canonical : String) : String :=
  (index.binaryName? canonical).getD (Java.conventionalBinaryName canonical)

/-- The indexed type that is nested in one of the types around a place, innermost first. -/
def nested? (index : Index) (chain : List NamedType) (name : String) : Option String :=
  (chain.map fun t => t.name ++ "$" ++ name).find? index.contains

/-- What a simple name stands for as far as the index and the imports of single types tell. -/
def resolve? (index : Index) (scope : SourceType) (name : String) : Option String :=
  index.nested? scope.chain name <|>
  (scope.file.single.lookup name).map index.binaryName <|>
  [scope.file.qualify name].find? index.contains <|>
  scope.file.onDemand.findSome? (fun p => index.binaryName? (p ++ "." ++ name)) <|>
  (if name ∈ implicitlyImported then some ("java.lang." ++ name) else none)

end Index

/-- What is asked when the index does not tell: whether a class is known elsewhere. -/
abbrev Probe (σ : Type) := String → Action σ LoadError Bool

variable {σ : Type}

/-- The first class under the given packages and types that the probe knows. -/
def firstKnown? (probe : Probe σ) (name : String) : List String → Action σ LoadError (Option String)
  | [] => return none
  | p :: ps => do
    let candidate := Java.conventionalBinaryName (p ++ "." ++ name)
    if ← probe candidate then return some candidate else firstKnown? probe name ps

/-- The binary name that a simple name stands for. -/
def resolveSimple (index : Index) (probe : Probe σ) (scope : SourceType) (name : String) :
    Action σ LoadError String := do
  match index.resolve? scope name with
  | some resolved => return resolved
  | none => return (← firstKnown? probe name scope.file.onDemand).getD (scope.file.qualify name)

/-- The binary name that a dotted name stands for. A name that starts with a lower-case letter is taken for a canonical
one; otherwise the first part is resolved and the others name types nested in it. -/
def resolveName (index : Index) (probe : Probe σ) (scope : SourceType) (parts : List String) :
    Action σ LoadError String := do
  let first := parts.headD ""
  if first.toList.head?.any Text.isLower then return index.binaryName (".".intercalate parts)
  else return Java.nestedName [← resolveSimple index probe scope first] parts.tail

/-- The erased name of a type. -/
def typeName (index : Index) (probe : Probe σ) (scope : SourceType) (vars : TypeVariables) (t : TypeUse) :
    Action σ LoadError String := do
  let e := erase vars t
  let element ← match e.head? with
    | none => pure Java.objectClass
    | some (.basic name) => pure name
    | some (.named parts) => resolveName index probe scope parts
  return element ++ Java.TypeName.brackets e.rank

end Typings.Source
