import Typings.Java.Class

/-!
# Inherited members

A class has the public members it declares and those of its supertypes. A field is inherited even if another one hides
it; of methods with one name and parameter list the first stays, and static methods of interfaces are not inherited.
-/

namespace Typings.Java

/-- What distinguishes the overloads of a class. -/
def Method.key (m : Method) : String × List String :=
  (m.name, m.parameters)

/-- The public ones among the declared fields, followed by the fields of the supertypes. -/
def inheritFields (declared : List Field) (supertypes : List ClassInfo) : List Field :=
  declared.filter (·.modifiers.isPublic) ++ supertypes.flatMap (·.fields)

/-- The methods that a class hands down to its subclasses. -/
def ClassInfo.inheritable (info : ClassInfo) : List Method :=
  info.methods.filter fun m => !(info.isInterface && m.modifiers.isStatic)

/-- The methods whose key is neither in `seen` nor that of an earlier one. -/
def firstOfKey (seen : List (String × List String)) : List Method → List Method
  | [] => []
  | m :: ms => if m.key ∈ seen then firstOfKey seen ms else m :: firstOfKey (m.key :: seen) ms

/-- The public ones among the declared methods, followed by the methods of the supertypes that are not overridden. -/
def inheritMethods (declared : List Method) (supertypes : List ClassInfo) : List Method :=
  let own := declared.filter (·.modifiers.isPublic)
  own ++ firstOfKey (own.map Method.key) (supertypes.flatMap (·.inheritable))

end Typings.Java
