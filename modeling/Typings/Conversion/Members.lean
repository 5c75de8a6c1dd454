import Typings.Conversion.TypeMapping
import Typings.Java.Class

/-!
# From Java members to TypeScript members

Fields become properties. Each public method becomes two: one that returns a promise and one that returns the value
itself, whose name ends in `Sync`. Each public constructor becomes a static factory and a constructor. A conversion notes
the classes it refers to, and keeps what it noted when it fails on a type without a mapping.
-/

namespace Typings.Conversion

open TypeScript (TypeNode Comment Member)

/-- The class whose members are converted, and the classes resolved before. -/
structure Scope where
  className : String
  resolved : List String := []
  deriving Repr

/-- A conversion: notes references, and fails on a type without a mapping. -/
abbrev Converter := EStateM UnsupportedType References

/-- Notes what a mapped type refers to. -/
def References.addMapped (resolved : List String) (m : Mapped) (r : References) : References :=
  let r := match m.reference? with
    | some name => r.add resolved name
    | none => r
  { r with usesBasicType := r.usesBasicType || m.usesBasicType }

/-- Maps a type and notes what it refers to. -/
def convertType (scope : Scope) (typeName : String) (position : Position) (allowNull : Bool) : Converter TypeNode :=
  match mapType scope.className typeName position allowNull with
  | .error e => throw e
  | .ok m => do
    modify (·.addMapped scope.resolved m)
    return m.node

/-- The comment above the first declaration of a member. -/
def sectionComment (title : String) : Comment :=
  .line (" ================== " ++ title ++ " ==================")

/-- The documentation lines of parameters, numbered from `index`. -/
def parameterLines (index : Nat) : List String → List String
  | [] => []
  | p :: ps => ("@param var" ++ toString index ++ " original type: '" ++ p ++ "'") :: parameterLines (index + 1) ps

/-- Converts parameters, numbering them from `index`. -/
def convertParameters (scope : Scope) (index : Nat) : List String → Converter (List TypeScript.Parameter)
  | [] => return []
  | p :: ps => do
    let type ← convertType scope p .parameter true
    let more ← convertParameters scope (index + 1) ps
    return ⟨"var" ++ toString index, type⟩ :: more

/-- The fields without those whose name an earlier field has. -/
def uniqueFields (fields : List Java.Field) : List Java.Field :=
  let rec go (seen : List String) : List Java.Field → List Java.Field
    | [] => []
    | f :: fs => if f.name ∈ seen then go seen fs else f :: go (f.name :: seen) fs
  go [] fields

/-- Converts a field. -/
def convertField (scope : Scope) (f : Java.Field) : Converter TypeScript.Property := do
  let type ← convertType scope f.typeName .value true
  return {
    modifiers := "public" ::
      (if f.modifiers.isStatic then ["static"] else []) ++ (if f.modifiers.isFinal then ["readonly"] else [])
    name := f.name
    type := type
    comments := [sectionComment ("Field " ++ f.name), .doc ["Original type: '" ++ f.typeName ++ "'"]] }

/-- Converts the public ones among the fields that are the first of their name. -/
def convertFields (scope : Scope) (fields : List Java.Field) : Converter (List TypeScript.Property) :=
  ((uniqueFields fields).filter (·.modifiers.isPublic)).mapM (convertField scope)

/-- One overload of a method. -/
structure Overload where
  parameters : List String
  returnType : String
  isStatic : Bool
  deriving DecidableEq, Repr

/-- The overload that a method declares. -/
def Overload.ofMethod (m : Java.Method) : Overload :=
  ⟨m.parameters, m.returnType, m.modifiers.isStatic⟩

/-- Adds an overload to the group of its name, which is put at the end if it is new. -/
def addToGroup (name : String) (overload : Overload) :
    List (String × List Overload) → List (String × List Overload)
  | [] => [(name, [overload])]
  | (n, overloads) :: groups =>
    if n = name then (n, overloads ++ [overload]) :: groups else (n, overloads) :: addToGroup name overload groups

/-- The overloads of the public methods, grouped by name in the order in which the names first appear. -/
def groupMethods (methods : List Java.Method) : List (String × List Overload) :=
  (methods.filter (·.modifiers.isPublic)).foldl (fun groups m => addToGroup m.name (.ofMethod m) groups) []

/-- Methods that by convention never return null. -/
def neverNull : List String :=
  ["toString", "wait", "getClass", "hashCode", "notify", "notifyAll", "equals"]

/-- How a converted method hands out its result. -/
inductive Delivery
  | async | sync
  deriving DecidableEq, Repr

/-- Converts one overload; the first of its name also gets the section comment. The return type is mapped before the
parameters. -/
def convertOverload (scope : Scope) (name : String) (allowNull isFirst : Bool) (delivery : Delivery) (o : Overload) :
    Converter TypeScript.Method := do
  let type ← convertType scope o.returnType .value allowNull
  let parameters ← convertParameters scope 0 o.parameters
  return {
    modifiers := "public" :: if o.isStatic then ["static"] else []
    name := match delivery with
      | .async => name
      | .sync => name ++ "Sync"
    parameters := parameters
    returnType := match delivery with
      | .async => .promise type
      | .sync => type
    comments := (if isFirst then [sectionComment ("Method " ++ name)] else []) ++
      [.doc (parameterLines 0 o.parameters ++ ["@return original return type: '" ++ o.returnType ++ "'"])] }

/-- Converts the overloads of one name, each to an asynchronous and a synchronous method. -/
def convertOverloads (scope : Scope) (name : String) (isFirst : Bool) : List Overload → Converter (List TypeScript.Method)
  | [] => return []
  | o :: os => do
    let async ← convertOverload scope name (name ∉ neverNull) isFirst .async o
    let sync ← convertOverload scope name (name ∉ neverNull) isFirst .sync o
    let more ← convertOverloads scope name false os
    return async :: sync :: more

/-- Converts the public methods, those of one name together. -/
def convertMethods (scope : Scope) (methods : List Java.Method) : Converter (List TypeScript.Method) := do
  let groups ← (groupMethods methods).mapM fun (name, overloads) => convertOverloads scope name true overloads
  return groups.flatten

/-- Converts parameter lists to static factories. -/
def convertFactories (scope : Scope) (isFirst : Bool) : List (List String) → Converter (List TypeScript.Method)
  | [] => return []
  | parameters :: more => do
    let factory ← convertOverload scope "newInstance" false isFirst .async ⟨parameters, scope.className, true⟩
    let rest ← convertFactories scope false more
    return factory :: rest

/-- Converts parameter lists to constructors. -/
def convertSignatures (scope : Scope) (isFirst : Bool) : List (List String) → Converter (List TypeScript.Constructor)
  | [] => return []
  | parameters :: more => do
    let converted ← convertParameters scope 0 parameters
    let rest ← convertSignatures scope false more
    return {
      modifiers := ["public"]
      parameters := converted
      comments := (if isFirst then [sectionComment "Constructors"] else []) ++
        (if parameters.isEmpty then [] else [.doc (parameterLines 0 parameters)]) } :: rest

/-- The parameter lists of the public constructors. -/
def publicSignatures (constructors : List Java.Constructor) : List (List String) :=
  (constructors.filter (·.modifiers.isPublic)).map (·.parameters)

/-- Converts the public constructors: first all factories, then all constructors. -/
def convertConstructors (scope : Scope) (constructors : List Java.Constructor) : Converter (List Member) := do
  let factories ← convertFactories scope true (publicSignatures constructors)
  let declared ← convertSignatures scope true (publicSignatures constructors)
  return factories.map .method ++ declared.map .constructor

end Typings.Conversion
