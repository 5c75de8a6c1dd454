import Typings.Java.Class
import Typings.Java.Descriptor
import Typings.Journal

/-!
# Clients

A client knows Java classes by name. It may learn while it is asked, so asking works on a state; the classes that it can
ever report are listed, which bounds every walk over them.
-/

namespace Typings

/-- Why a class cannot be loaded. -/
inductive LoadError
  | classNotFound (className : String)
  | accessDenied (className : String)
  | unresolved (className reason : String)
  /-- The listing of the class has a member whose descriptor cannot be read. -/
  | descriptor (cause : Java.DescriptorError)
  /-- A Java file ends within its package or import declarations. -/
  | headerTruncated
  /-- A Java file ends directly after an operand. -/
  | operandTruncated
  /-- The class is its own supertype, directly or through others. -/
  | cyclicInheritance
  deriving DecidableEq, Repr

namespace LoadError

/-- Whether the failure says that the class cannot be had, rather than that what was read about it is broken. -/
def isUnresolved : LoadError → Bool
  | classNotFound _ | accessDenied _ | unresolved _ _ => true
  | descriptor _ | headerTruncated | operandTruncated | cyclicInheritance => false

/-- The text of the error, where it has one. -/
def message? : LoadError → Option String
  | classNotFound className => some (className ++ ": class not found")
  | accessDenied className => some (className ++ ": class is not accessible")
  | unresolved className reason => some (className ++ ": " ++ reason)
  | descriptor cause => cause.message?
  | headerTruncated | operandTruncated | cyclicInheritance => none

end LoadError

/-- A source of classes with a state of type `σ`. -/
structure Client (σ : Type) where
  load : String → Action σ LoadError Java.ClassInfo
  /-- The names under which the client can report a class. -/
  known : List String

/-- The classes that a client has loaded so far. -/
abbrev Cache := List (String × Java.ClassInfo)

/-- A table of classes, some of which cannot be had. -/
structure ClassTable where
  classes : List (String × Java.ClassInfo)
  denied : List String := []
  failing : List (String × String) := []
  deriving Repr

namespace ClassTable

/-- What the table says of a name. The last of several classes under one name counts. -/
def answer (t : ClassTable) (className : String) : Except LoadError Java.ClassInfo :=
  if className ∈ t.denied then .error (.accessDenied className)
  else match t.failing.lookup className with
    | some reason => .error (.unresolved className reason)
    | none => match t.classes.reverse.lookup className with
      | some info => .ok info
      | none => .error (.classNotFound className)

end ClassTable

namespace Client

/-- The client that gives fixed answers and enters each question into the journal. -/
def ofAnswers {σ : Type} (known : List String) (answer : String → Except LoadError Java.ClassInfo) : Client σ where
  load className := do
    Action.report (.lookedUp className)
    Action.ofExcept (answer className)
  known := known

/-- The client that answers from a table. -/
def ofTable {σ : Type} (t : ClassTable) : Client σ :=
  ofAnswers (t.classes.map (·.1)) t.answer

end Client

end Typings
