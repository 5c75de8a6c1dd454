import Typings.Text.Split

/-!
# Names of Java types

A class name is a sequence of segments joined by dots; nested classes are joined to the class around them by `$` in a
binary name and by a dot in a canonical one. A type name is a class name or primitive followed by one `[]` per array
dimension.
-/

namespace Typings.Java

/-- The dotted segments of a name. -/
def segments (name : String) : List String :=
  Text.splitAt '.' name

/-- The last segment of a dotted name. -/
def simpleName (name : String) : String :=
  (segments name).getLastD ""

/-- The name with underscores for dots. -/
def flatName (name : String) : String :=
  String.ofList (name.toList.map fun c => if c = '.' then '_' else c)

/-- A character that may start a segment of a class name. -/
def isSegmentStart (c : Char) : Bool :=
  Text.isAsciiLetter c || c = '_' || c = '$'

/-- A segment of a class name: a start character and then word characters or `$`. -/
def isSegment : List Char → Bool
  | [] => false
  | c :: rest => isSegmentStart c && rest.all fun d => Text.isWordChar d || d = '$'

/-- A class name: one or more segments joined by dots. -/
def isClassName (name : String) : Bool :=
  (name.toList.splitOn '.').all isSegment

/-- Splits a canonical name after its first segment that starts with an upper-case letter: the name of a top-level
class, and the classes nested in it. -/
def splitAtCapital : List String → Option (List String × List String)
  | [] => none
  | s :: rest =>
    if s.toList.head?.any Text.isUpper then some ([s], rest)
    else (splitAtCapital rest).map fun (outer, nested) => (s :: outer, nested)

/-- The binary name of a class, given the segments of its top-level class and the classes nested in it. -/
def nestedName (outer nested : List String) : String :=
  String.join (".".intercalate outer :: nested.map ("$" ++ ·))

/-- The binary name that a canonical name has by the convention that packages start with a lower-case letter and
top-level classes with an upper-case one. -/
def conventionalBinaryName (canonical : String) : String :=
  match splitAtCapital (segments canonical) with
  | some (outer, nested) => nestedName outer nested
  | none => canonical

/-- The primitive types. -/
inductive Primitive
  | boolean | byte | char | short | int | long | float | double
  deriving DecidableEq, Repr

namespace Primitive

/-- All primitive types. -/
def all : List Primitive := [boolean, byte, char, short, int, long, float, double]

/-- The keyword of the type. -/
def name : Primitive → String
  | boolean => "boolean"
  | byte => "byte"
  | char => "char"
  | short => "short"
  | int => "int"
  | long => "long"
  | float => "float"
  | double => "double"

/-- The class whose instances wrap the values of the type. -/
def wrapper : Primitive → String
  | boolean => "java.lang.Boolean"
  | byte => "java.lang.Byte"
  | char => "java.lang.Character"
  | short => "java.lang.Short"
  | int => "java.lang.Integer"
  | long => "java.lang.Long"
  | float => "java.lang.Float"
  | double => "java.lang.Double"

/-- The primitive type of the given keyword. -/
def ofName? (s : String) : Option Primitive :=
  all.find? (·.name = s)

/-- The primitive type that the given class wraps. -/
def ofWrapper? (s : String) : Option Primitive :=
  all.find? (·.wrapper = s)

end Primitive

/-- The wrapper class of a primitive type, and any other name unchanged. -/
def boxed (typeName : String) : String :=
  match Primitive.ofName? typeName with
  | some p => p.wrapper
  | none => typeName

/-- The root of the class hierarchy. -/
def objectClass : String := "java.lang.Object"

/-- The superclass of every enum. -/
def enumClass : String := "java.lang.Enum"

/-- The class of strings. -/
def stringClass : String := "java.lang.String"

/-- A type name cut into the name of its innermost element and its number of array dimensions. -/
structure TypeName where
  element : String
  rank : Nat
  deriving DecidableEq, Repr

namespace TypeName

/-- Counts the `[]` pairs at the front of a reversed type name. -/
def cutRank : List Char → Nat × List Char
  | ']' :: '[' :: rest => let (rank, element) := cutRank rest; (rank + 1, element)
  | cs => (0, cs)

/-- Takes all trailing `[]` pairs off a type name. -/
def ofString (s : String) : TypeName :=
  let (rank, element) := cutRank s.toList.reverse
  ⟨String.ofList element.reverse, rank⟩

/-- The given number of `[]` pairs. -/
def brackets (rank : Nat) : String :=
  String.join (List.replicate rank "[]")

/-- The type name as text. -/
def text (t : TypeName) : String :=
  t.element ++ brackets t.rank

end TypeName

end Typings.Java
