/-!
# Modifiers of Java declarations

A set of modifiers is a bit mask. Masks come from outside as integers of any size and sign, a negative one standing for
its two's complement with unboundedly many bits, so `-1` has every modifier.
-/

namespace Typings.Java

/-- The modifiers that have a bit of their own. -/
inductive Modifier
  | publicAccess | privateAccess | protectedAccess | static | final | synchronized | volatile | transient | native
  | interface | abstract | strictfp
  deriving DecidableEq, Repr

namespace Modifier

/-- All modifiers in the order of their bits. -/
def all : List Modifier :=
  [publicAccess, privateAccess, protectedAccess, static, final, synchronized, volatile, transient, native, interface,
   abstract, strictfp]

/-- The number in which the modifier's bit alone is set. -/
def bit : Modifier → Int
  | publicAccess => 0x001
  | privateAccess => 0x002
  | protectedAccess => 0x004
  | static => 0x008
  | final => 0x010
  | synchronized => 0x020
  | volatile => 0x040
  | transient => 0x080
  | native => 0x100
  | interface => 0x200
  | abstract => 0x400
  | strictfp => 0x800

/-- The word that stands for the modifier in a declaration. -/
def keyword : Modifier → String
  | publicAccess => "public"
  | privateAccess => "private"
  | protectedAccess => "protected"
  | static => "static"
  | final => "final"
  | synchronized => "synchronized"
  | volatile => "volatile"
  | transient => "transient"
  | native => "native"
  | interface => "interface"
  | abstract => "abstract"
  | strictfp => "strictfp"

/-- The modifier that a word stands for. Words without a bit, such as `default` and `sealed`, stand for none. -/
def ofKeyword? (word : String) : Option Modifier :=
  all.find? (·.keyword = word)

end Modifier

/-- A set of modifiers. -/
structure Modifiers where
  mask : Int
  deriving DecidableEq, Repr

namespace Modifiers

/-- The set without modifiers. -/
def empty : Modifiers := ⟨0⟩

/-- Whether the modifier's bit is set. Division rounds down, so this also reads the bits of a negative mask. -/
def contains (ms : Modifiers) (m : Modifier) : Bool :=
  ms.mask / m.bit % 2 = 1

/-- The set with one more modifier. -/
def insert (ms : Modifiers) (m : Modifier) : Modifiers :=
  if ms.contains m then ms else ⟨ms.mask + m.bit⟩

/-- The set of the given modifiers. -/
def ofList (members : List Modifier) : Modifiers :=
  members.foldl insert empty

/-- The set that a list of words stands for; words without a bit are skipped. -/
def ofKeywords (words : List String) : Modifiers :=
  ofList (words.filterMap Modifier.ofKeyword?)

/-- Whether the public bit is set. -/
def isPublic (ms : Modifiers) : Bool := ms.contains .publicAccess

/-- Whether the static bit is set. -/
def isStatic (ms : Modifiers) : Bool := ms.contains .static

/-- Whether the final bit is set. -/
def isFinal (ms : Modifiers) : Bool := ms.contains .final

/-- Whether the abstract bit is set. -/
def isAbstract (ms : Modifiers) : Bool := ms.contains .abstract

/-- Whether the interface bit is set. -/
def isInterface (ms : Modifiers) : Bool := ms.contains .interface

end Modifiers

end Typings.Java
