import Typings.Java.Modifiers

/-!
# Classes and their members

What a client reports about one class. Type names are erased: a class's binary name or a primitive, followed by one `[]`
per array dimension.
-/

namespace Typings.Java

/-- A field. -/
structure Field where
  name : String
  typeName : String
  modifiers : Modifiers
  deriving DecidableEq, Repr

/-- A method. -/
structure Method where
  name : String
  parameters : List String
  returnType : String
  modifiers : Modifiers
  deriving DecidableEq, Repr

/-- A constructor. -/
structure Constructor where
  parameters : List String
  modifiers : Modifiers
  deriving DecidableEq, Repr

/-- What is known of a class: its public fields and methods, inherited ones included, and the constructors it
declares. -/
structure ClassInfo where
  name : String
  modifiers : Modifiers
  isInterface : Bool := false
  fields : List Field := []
  methods : List Method := []
  constructors : List Constructor := []
  deriving DecidableEq, Repr

/-- Whether the class cannot be instantiated. The interface flag decides, not the interface bit. -/
def ClassInfo.isAbstract (info : ClassInfo) : Bool :=
  info.isInterface || info.modifiers.isAbstract

end Typings.Java
