import Typings.Conversion.Members
import Typings.TypeScript.Printer

/-!
# The module of a class

A module imports the runtime and the classes it refers to, declares the class that only has types, and exports the class
that loads the Java class at run time.
-/

namespace Typings.Conversion

open TypeScript (Statement ClassDeclaration Comment Member)

/-- The module of the runtime library. -/
def runtimeModule : String := "java-bridge"

/-- The import of the runtime. -/
def runtimeImport (usesBasicType : Bool) : TypeScript.ImportDeclaration :=
  let names := ["importClass", "JavaClass"] ++ if usesBasicType then [basicTypeName] else []
  { specifiers := names.map fun name => { name := name }
    source := runtimeModule }

/-- The constructor that keeps abstract classes and interfaces from being instantiated. -/
def privateConstructor : TypeScript.Constructor :=
  { modifiers := ["private"]
    superCalls := some 1
    comments := [.doc ["Private constructor to prevent instantiation",
      "as this is either an abstract class or an interface"]] }

/-- The last lines of both class comments. -/
def generatedNotice : List String :=
  ["This was generated by javadecl.", "You should probably not edit this."]

/-- The class that holds the types of the members. -/
def declaredClass (className : String) (members : List Member) : ClassDeclaration :=
  let simple := Java.simpleName className
  { modifiers := ["export", "declare"]
    name := simple ++ "Class"
    parent := .identifier "JavaClass"
    members := members
    comments := [.doc <|
      ("This class just defines types, you should import " ++ simple ++ " instead of this.") :: generatedNotice] }

/-- The class that imports the Java class. -/
def exportedClass (className : String) (isAbstract : Bool) : ClassDeclaration :=
  let simple := Java.simpleName className
  { modifiers := ["export"]
    name := simple
    parent := .importClass (simple ++ "Class") className
    members := if isAbstract then [.constructor privateConstructor] else []
    comments := [.doc <|
      ["Class " ++ className ++ ".", "", "This actually imports the java class for further use.",
        "The class " ++ simple ++ "Class only defines types, this is the class you should actually import.",
        "Please note that this statement imports the underlying java class at runtime, which may take a while."] ++
        generatedNotice] }

/-- Converts the members of a class. The constructors of an abstract class are left out. -/
def convertMembers (scope : Scope) (info : Java.ClassInfo) : Converter (List Member) := do
  let fields ← convertFields scope info.fields
  let methods ← convertMethods scope info.methods
  let constructors ← if info.isAbstract then pure [] else convertConstructors scope info.constructors
  return fields.map .property ++ methods.map .method ++ constructors

/-- A converted class. -/
structure Converted where
  info : Java.ClassInfo
  members : List Member
  references : References
  deriving Repr

namespace Converted

/-- The statements of the module. -/
def statements (c : Converted) : List Statement :=
  .importNames (runtimeImport c.references.usesBasicType) ::
    (c.references.imports c.info.name).map .importNames ++
    [.blank, .classDeclaration (declaredClass c.info.name c.members), .blank,
      .classDeclaration (exportedClass c.info.name c.info.isAbstract),
      .exportDefault (Java.simpleName c.info.name)]

/-- The text of the module. -/
def contents (c : Converted) : String :=
  TypeScript.printModule c.statements

end Converted

/-- Converts a class while the classes in `resolved` are resolved. -/
def convertClass (info : Java.ClassInfo) (resolved : List String) : Except UnsupportedType Converted :=
  match convertMembers ⟨info.name, resolved⟩ info {} with
  | .ok members references => .ok ⟨info, members, references⟩
  | .error e _ => .error e

end Typings.Conversion
