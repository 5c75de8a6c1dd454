import Typings.TypeScript.Tree

/-!
# Printing TypeScript

Members are indented by four spaces, and a module ends with a line end.
-/

namespace Typings.TypeScript

mutual

/-- The text of a type. An array of a union puts the union into parentheses. -/
def TypeNode.print : TypeNode → String
  | .keyword word => word
  | .null => "null"
  | .reference name [] => name
  | .reference name (a :: as) => name ++ "<" ++ ", ".intercalate (TypeNode.printAll (a :: as)) ++ ">"
  | .array (.union alternatives) => "(" ++ " | ".intercalate (TypeNode.printAll alternatives) ++ ")[]"
  | .array element => element.print ++ "[]"
  | .union alternatives => " | ".intercalate (TypeNode.printAll alternatives)

/-- The texts of several types. -/
def TypeNode.printAll : List TypeNode → List String
  | [] => []
  | t :: ts => t.print :: TypeNode.printAll ts

end

/-- The indentation of a class member. -/
def indentation : String := "    "

/-- The lines of a comment. -/
def Comment.print (indent : String) : Comment → List String
  | .line text => [indent ++ "//" ++ text]
  | .doc lines =>
    (indent ++ "/**") :: lines.map (fun text => if text = "" then indent ++ " *" else indent ++ " * " ++ text) ++
      [indent ++ " */"]

/-- The lines of several comments. -/
def printComments (indent : String) (comments : List Comment) : List String :=
  comments.flatMap (Comment.print indent)

/-- A parameter list without its parentheses. -/
def printParameters (parameters : List Parameter) : String :=
  ", ".intercalate (parameters.map fun p => p.name ++ ": " ++ p.type.print)

/-- The modifiers, each followed by a space. -/
def printModifiers (modifiers : List String) : String :=
  String.join (modifiers.map (· ++ " "))

/-- The lines of a property. -/
def Property.print (indent : String) (p : Property) : List String :=
  printComments indent p.comments ++
    [indent ++ printModifiers p.modifiers ++ p.name ++ ": " ++ p.type.print ++ ";"]

/-- The lines of a method. -/
def Method.print (indent : String) (m : Method) : List String :=
  printComments indent m.comments ++
    [indent ++ printModifiers m.modifiers ++ m.name ++ "(" ++ printParameters m.parameters ++ "): " ++
      m.returnType.print ++ ";"]

/-- The lines of a constructor. -/
def Constructor.print (indent : String) (c : Constructor) : List String :=
  let signature := indent ++ printModifiers c.modifiers ++ "constructor(" ++ printParameters c.parameters ++ ")"
  printComments indent c.comments ++
    match c.superCalls with
    | none => [signature ++ ";"]
    | some calls =>
      (signature ++ " \x7b") :: List.replicate calls (indent ++ indentation ++ "super();") ++ [indent ++ "\x7d"]

/-- The lines of a member. -/
def Member.print (indent : String) : Member → List String
  | .property p => p.print indent
  | .method m => m.print indent
  | .constructor c => c.print indent

/-- What stands after `extends`. -/
def Heritage.print : Heritage → String
  | .identifier name => name
  | .importClass typeName className => "importClass<typeof " ++ typeName ++ ">(\"" ++ className ++ "\")"

/-- The text of a class. -/
def ClassDeclaration.print (c : ClassDeclaration) : String :=
  "\n".intercalate <|
    printComments "" c.comments ++
      [printModifiers c.modifiers ++ "class " ++ c.name ++ " extends " ++ c.parent.print ++ " \x7b"] ++
      c.members.flatMap (Member.print indentation) ++ ["\x7d"]

/-- An imported name; an empty alias counts as none. -/
def ImportSpecifier.print (s : ImportSpecifier) : String :=
  match s.alias? with
  | none => s.name
  | some name => if name = "" then s.name else s.name ++ " as " ++ name

/-- The text of an import. -/
def ImportDeclaration.print (d : ImportDeclaration) : String :=
  "import \x7b " ++ ", ".intercalate (d.specifiers.map ImportSpecifier.print) ++ " \x7d from \"" ++ d.source ++ "\";"

/-- The text of a statement. -/
def Statement.print : Statement → String
  | .importNames d => d.print
  | .classDeclaration c => c.print
  | .exportDefault name => "export default " ++ name ++ ";"
  | .blank => ""

/-- The text of a module. -/
def printModule (statements : List Statement) : String :=
  "\n".intercalate (statements.map Statement.print) ++ "\n"

end Typings.TypeScript
