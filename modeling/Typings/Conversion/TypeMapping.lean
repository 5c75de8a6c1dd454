import Typings.Conversion.References
import Typings.Text.Quoted

/-!
# From Java types to TypeScript types

A Java type name is mapped by its innermost element. Numbers, booleans and text become TypeScript's own types; a
parameter of such a type may also be given as an instance of the wrapper class. Every other class is referred to by its
flat name. Values may be null, except primitives and `void`.
-/

namespace Typings.Conversion

open TypeScript (TypeNode)

/-- Where a type stands. -/
inductive Position
  | parameter | value
  deriving DecidableEq, Repr

/-- A type name that is neither a known type nor a class name. -/
structure UnsupportedType where
  typeName : String
  deriving DecidableEq, Repr

/-- The text of the error. -/
def UnsupportedType.message (e : UnsupportedType) : String :=
  "Unsupported type name: " ++ Text.Quoted.encode e.typeName

/-- What the innermost element of a type name stands for. -/
inductive Element
  /-- A number or boolean, as a primitive or as an instance of its wrapper class. -/
  | scalar (wrapper : String) (isPrimitive : Bool) (types : List TypeNode)
  | text
  | void
  | object
  | declared (name : String)
  deriving Repr

/-- The TypeScript types of a primitive's values; characters are text and have none here. -/
def scalarTypes? : Java.Primitive → Option (List TypeNode)
  | .boolean => some [.boolean]
  | .char => none
  | .long => some [.number, .bigint]
  | .byte | .short | .int | .float | .double => some [.number]

/-- What a primitive, or the class that wraps it, stands for. -/
def Element.ofPrimitive (p : Java.Primitive) (isPrimitive : Bool) : Element :=
  match scalarTypes? p with
  | some types => .scalar p.wrapper isPrimitive types
  | none => .text

/-- What an element name stands for, if anything. -/
def Element.ofName? (name : String) : Option Element :=
  match Java.Primitive.ofName? name, Java.Primitive.ofWrapper? name with
  | some p, _ => some (.ofPrimitive p true)
  | none, some p => some (.ofPrimitive p false)
  | none, none =>
    if name = Java.stringClass then some .text
    else if name = "void" ∨ name = "java.lang.Void" then some .void
    else if name = Java.objectClass then some .object
    else if Java.isClassName name then some (.declared name)
    else none

/-- The helper type of the runtime for values of any class. -/
def basicTypeName : String := "BasicOrJavaType"

/-- The TypeScript type for a Java type and what it refers to. -/
structure Mapped where
  node : TypeNode
  reference? : Option String := none
  usesBasicType : Bool := false
  deriving Repr

/-- A reference to the class `name` from the module of the class `self`. Within its own module a class has two names:
the declared class with the suffix `Class` for parameters, and the exported one. -/
def referenceTo (self name : String) (position : Position) : TypeNode :=
  if name = self then
    .named (Java.simpleName name ++ if position = .parameter then "Class" else "")
  else .named (Java.flatName name)

/-- The type of an element. -/
def mapElement (self : String) (position : Position) (allowNull : Bool) : Element → Mapped
  | .scalar wrapper isPrimitive types =>
    let nulls := if allowNull && !isPrimitive then [.null] else []
    match position with
    | .parameter =>
      { node := .unionOf (referenceTo self wrapper position :: types ++ nulls), reference? := some wrapper }
    | .value => { node := .unionOf (types ++ nulls) }
  | .text => { node := TypeNode.string.orNull allowNull }
  | .void => { node := .void }
  | .object => { node := (TypeNode.named basicTypeName).orNull allowNull, usesBasicType := true }
  | .declared name => { node := (referenceTo self name position).orNull allowNull, reference? := some name }

/-- Puts a type into the given number of arrays. Elements may always be null; whether the outermost array may is given. -/
def inArrays (allowNull : Bool) (element : Bool → Mapped) : Nat → Mapped
  | 0 => element allowNull
  | rank + 1 =>
    let inner := inArrays true element rank
    { inner with node := (TypeNode.array inner.node).orNull allowNull }

/-- The type of a buffer, which takes the place of an array of bytes. -/
def buffer (allowNull : Bool) : Mapped :=
  { node := (TypeNode.named "Buffer").orNull allowNull }

/-- Whether an array of the element is mapped to a buffer. -/
def isByte (element : String) : Bool :=
  element = "byte" ∨ element = "java.lang.Byte"

/-- The TypeScript type for a Java type name in the module of the class `self`. -/
def mapType (self typeName : String) (position : Position) (allowNull : Bool) : Except UnsupportedType Mapped :=
  let t := Java.TypeName.ofString typeName
  if isByte t.element ∧ 0 < t.rank then .ok (inArrays allowNull buffer (t.rank - 1))
  else match Element.ofName? t.element with
    | none => .error ⟨t.element⟩
    | some element => .ok (inArrays allowNull (fun null => mapElement self position null element) t.rank)

end Typings.Conversion
