/-!
# TypeScript declarations

The part of the TypeScript language that declaration modules are made of.
-/

namespace Typings.TypeScript

/-- A type expression. -/
inductive TypeNode
  | keyword (word : String)
  | null
  | reference (name : String) (arguments : List TypeNode)
  | array (element : TypeNode)
  | union (alternatives : List TypeNode)
  deriving Repr

namespace TypeNode

/-- The type `number`. -/
def number : TypeNode := .keyword "number"

/-- The type `bigint`. -/
def bigint : TypeNode := .keyword "bigint"

/-- The type `string`. -/
def string : TypeNode := .keyword "string"

/-- The type `boolean`. -/
def boolean : TypeNode := .keyword "boolean"

/-- The type `void`. -/
def void : TypeNode := .keyword "void"

/-- A reference without type arguments. -/
def named (name : String) : TypeNode := .reference name []

/-- The union of the given types; a single type is its own union. -/
def unionOf : List TypeNode → TypeNode
  | [t] => t
  | ts => .union ts

/-- The type of a promise. -/
def promise (inner : TypeNode) : TypeNode := .reference "Promise" [inner]

/-- The type, or null as well when `allowNull` is set. -/
def orNull (allowNull : Bool) (t : TypeNode) : TypeNode :=
  if allowNull then unionOf [t, .null] else t

end TypeNode

/-- A comment before a declaration. -/
inductive Comment
  | line (text : String)
  | doc (lines : List String)
  deriving DecidableEq, Repr

/-- A parameter of a method or constructor. -/
structure Parameter where
  name : String
  type : TypeNode
  deriving Repr

/-- A property of a class. -/
structure Property where
  modifiers : List String
  name : String
  type : TypeNode
  comments : List Comment := []
  deriving Repr

/-- A method of a class. -/
structure Method where
  modifiers : List String
  name : String
  parameters : List Parameter
  returnType : TypeNode
  comments : List Comment := []
  deriving Repr

/-- A constructor of a class. Its body, if it has one, calls the superclass constructor the given number of times. -/
structure Constructor where
  modifiers : List String
  parameters : List Parameter := []
  superCalls : Option Nat := none
  comments : List Comment := []
  deriving Repr

/-- A member of a class. -/
inductive Member
  | property (p : Property)
  | method (m : Method)
  | constructor (c : Constructor)
  deriving Repr

/-- What a class extends: a class in scope, or the runtime's import of a Java class under a class type. -/
inductive Heritage
  | identifier (name : String)
  | importClass (typeName className : String)
  deriving DecidableEq, Repr

/-- A class declaration. -/
structure ClassDeclaration where
  modifiers : List String
  name : String
  parent : Heritage
  members : List Member := []
  comments : List Comment := []
  deriving Repr

/-- One imported name, possibly under another name. -/
structure ImportSpecifier where
  name : String
  alias? : Option String := none
  deriving DecidableEq, Repr

/-- An import of names from a module. -/
structure ImportDeclaration where
  specifiers : List ImportSpecifier
  source : String
  deriving DecidableEq, Repr

/-- A statement at the top level of a module. -/
inductive Statement
  | importNames (declaration : ImportDeclaration)
  | classDeclaration (declaration : ClassDeclaration)
  | exportDefault (name : String)
  | blank
  deriving Repr

end Typings.TypeScript
