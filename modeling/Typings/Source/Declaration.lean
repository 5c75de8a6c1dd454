/-!
# Declarations in Java sources

What a Java file says about the types it declares: packages, imports, and of each class, interface and enum its header
and the headers of its members. Bodies, initializers and annotations are not kept.
-/

namespace Typings.Source

/-- What a type is called where it is used. -/
inductive TypeHead
  | basic (name : String)
  | named (parts : List String)
  deriving DecidableEq, Repr

/-- The use of a type, with its number of array dimensions. Type arguments are not kept. -/
structure TypeUse where
  head : TypeHead
  rank : Nat := 0
  deriving DecidableEq, Repr

/-- A type parameter with its bounds. -/
structure TypeParameter where
  name : String
  bounds : List TypeUse := []
  deriving DecidableEq, Repr

/-- A parameter of a method or constructor. -/
structure Parameter where
  type : TypeUse
  isVariadic : Bool := false
  deriving DecidableEq, Repr

/-- One of the names that a field declaration introduces, with the dimensions that follow it. -/
structure Declarator where
  name : String
  rank : Nat := 0
  deriving DecidableEq, Repr

/-- A member that is not a type. A method without return type returns nothing. -/
inductive Member
  | field (modifiers : List String) (type : TypeUse) (declarators : List Declarator)
  | method (modifiers : List String) (typeParameters : List TypeParameter) (returnType? : Option TypeUse)
      (name : String) (parameters : List Parameter)
  | constructor (modifiers : List String) (parameters : List Parameter)
  deriving DecidableEq, Repr

/-- The kinds of types. -/
inductive Kind
  | classType | interfaceType | enumType
  deriving DecidableEq, Repr

/-- The header of a type and its members, other types apart. -/
structure Header where
  kind : Kind
  modifiers : List String := []
  name : String
  typeParameters : List TypeParameter := []
  /-- The extended types, of which a class has at most one. -/
  extended : List TypeUse := []
  implemented : List TypeUse := []
  /-- The names of the constants of an enum. -/
  constants : List String := []
  members : List Member := []
  deriving DecidableEq, Repr

/-- A type with the types declared in it. -/
inductive TypeDeclaration
  | mk (header : Header) (nested : List TypeDeclaration)
  deriving Repr

/-- The header of the type. -/
def TypeDeclaration.header : TypeDeclaration → Header
  | mk header _ => header

/-- The types declared in the type. -/
def TypeDeclaration.nested : TypeDeclaration → List TypeDeclaration
  | mk _ nested => nested

/-- An import of one type, or of all types in a package or type. -/
structure Import where
  path : List String
  isStatic : Bool := false
  isOnDemand : Bool := false
  deriving DecidableEq, Repr

/-- A Java file. -/
structure CompilationUnit where
  /-- The segments of the package name; none in the unnamed package. -/
  package : List String := []
  imports : List Import := []
  types : List TypeDeclaration := []
  deriving Repr

end Typings.Source
