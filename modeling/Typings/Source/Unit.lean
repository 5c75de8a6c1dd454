import Typings.Source.Grammar
import Typings.Source.Lexer
import Typings.Text.Utf8

/-!
# Reading Java files

A file has a package declaration, imports and types. If it ends within the first two, or directly after an operand, that
is told apart from text that is not accepted.
-/

namespace Typings.Source

/-- The text with a line feed for each line end. -/
def unifyLineEnds : List Char → List Char
  | [] => []
  | '\r' :: '\n' :: cs => '\n' :: unifyLineEnds cs
  | c :: cs => (if c = '\r' then '\n' else c) :: unifyLineEnds cs

namespace CompilationUnit

open Grammar (Part)

/-- The cause of a mismatch, given what it means that the tokens end. -/
def causeOf (ended : SourceError) : Mismatch → SourceError
  | .rejected => .rejected
  | .ended => ended
  | .operandEnded => .operandTruncated

/-- Reads by a rule, given what it means that the tokens end. -/
def readBy (ended : SourceError) (rule : Grammar.JavaRule) (ts : List Token) :
    Except SourceError (List Part × List Token) :=
  (Grammar.read rule ts).mapError (causeOf ended)

/-- Reads the package declaration, if there is one: annotations at the start may be its own or those of a type. -/
def readPackage (ts : List Token) : Except SourceError (List String × List Token) := do
  let (_, afterAnnotations) ← readBy .headerTruncated Grammar.packageAnnotations ts
  if Rule.nextIs "package" afterAnnotations then
    let (parts, rest) ← readBy .headerTruncated Grammar.packageDeclaration afterAnnotations
    return (Grammar.words parts, rest)
  else return ([], ts)

/-- The imports among the parts. -/
def importsOf (parts : List Part) : List Import :=
  parts.filterMap fun
    | .imported i => some i
    | _ => none

/-- Reads the tokens of a file. -/
def ofTokens (ts : List Token) : Except SourceError CompilationUnit := do
  let (package, ts) ← readPackage ts
  let (imports, ts) ← readBy .headerTruncated Grammar.importDeclarations ts
  let (types, _) ← readBy .rejected Grammar.typeDeclarations ts
  return { package := package, imports := importsOf imports, types := Grammar.declarations types }

/-- Reads the bytes of a file. -/
def ofBytes (bytes : ByteArray) : Except SourceError CompilationUnit := do
  ofTokens (← tokenize (unifyLineEnds (Text.Utf8.decodeReplacing bytes)))

end CompilationUnit

end Typings.Source
