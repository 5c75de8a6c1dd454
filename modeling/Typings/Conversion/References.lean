import Typings.Conversion.Specifier
import Typings.TypeScript.Tree

/-!
# References to other classes

The classes that the members of one class refer to, in the order in which they are first referred to, and those among
them that were not yet resolved at that moment.
-/

namespace Typings.Conversion

/-- What the members converted so far refer to. -/
structure References where
  all : List String := []
  unresolved : List String := []
  /-- Whether the helper type of the runtime is needed. -/
  usesBasicType : Bool := false
  deriving DecidableEq, Repr

namespace References

/-- Notes a reference to the class `name` while the classes in `resolved` are resolved. -/
def add (resolved : List String) (name : String) (r : References) : References :=
  { r with
    all := if name ∈ r.all then r.all else r.all ++ [name]
    unresolved := if name ∈ resolved ∨ name ∈ r.unresolved then r.unresolved else r.unresolved ++ [name] }

/-- The imports of the module of the class `importer`: every class referred to under its flat name, except itself. -/
def imports (importer : String) (r : References) : List TypeScript.ImportDeclaration :=
  (r.all.filter (· ≠ importer)).map fun name =>
    { specifiers := [{ name := Java.simpleName name, alias? := some (Java.flatName name) }]
      source := moduleSpecifier importer name }

end References

end Typings.Conversion
