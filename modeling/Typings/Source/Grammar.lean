import Typings.Source.Declaration
import Typings.Source.Rule

/-!
# The grammar of Java sources

The phrases of a Java file from types to expressions. Method bodies and initializers have to fit the grammar too, but
leave no parts.
-/

namespace Typings.Source.Grammar

open Rule

/-- A part of what is read. -/
inductive Part
  | word (text : String)
  | basic (name : String)
  | modifier (word : String)
  /-- A pair of brackets. -/
  | brackets
  | variadic
  | type (t : TypeUse)
  | typeParameter (p : TypeParameter)
  | parameter (p : Parameter)
  | parameters (ps : List Parameter)
  | declarator (d : Declarator)
  | extended (ts : List TypeUse)
  | implemented (ts : List TypeUse)
  | constant (name : String)
  /-- The name of a constructor. -/
  | constructorName
  /-- A declaration of no use. -/
  | unused
  | member (m : Member)
  | declaration (t : TypeDeclaration)
  /-- The star at the end of an import. -/
  | onDemand
  | imported (i : Import)

/-- The phrases that rules refer to. -/
inductive Phrase
  | type | referenceType | typeArguments | annotationUse | elementValue | classBody | bodyDeclaration | member
  | interfaceMember | annotationMember | typeDeclaration | classDeclaration | enumDeclaration | interfaceDeclaration
  | annotationDeclaration | enumConstants | parameterList | block | blockStatement | statement | resources
  | expression | conditional | binary | unary | primary | selector | creator | initializer | arrayInitializer
  | initializers
  deriving DecidableEq, Repr

/-- A rule of this grammar. -/
abbrev JavaRule := Rule Phrase Part

/-! ## Building parts -/

/-- The words among the parts. -/
def words (parts : List Part) : List String :=
  parts.filterMap fun
    | .word text => some text
    | _ => none

/-- The modifiers among the parts. -/
def modifiers (parts : List Part) : List String :=
  parts.filterMap fun
    | .modifier word => some word
    | _ => none

/-- The types among the parts. -/
def types (parts : List Part) : List TypeUse :=
  parts.filterMap fun
    | .type t => some t
    | _ => none

/-- The number of pairs of brackets among the parts. -/
def rank (parts : List Part) : Nat :=
  (parts.filterMap fun
    | .brackets => some ()
    | _ => none).length

/-- The types declared among the parts. -/
def declarations (parts : List Part) : List TypeDeclaration :=
  parts.filterMap fun
    | .declaration t => some t
    | _ => none

/-- The use of a type. -/
def buildType (parts : List Part) : List Part :=
  let basic? := parts.findSome? fun
    | .basic name => some name
    | _ => none
  let head := match basic? with
    | some name => .basic name
    | none => .named (words parts)
  [.type ⟨head, rank parts⟩]

/-- A type parameter. -/
def buildTypeParameter (parts : List Part) : List Part :=
  [.typeParameter ⟨(words parts).headD "", types parts⟩]

/-- A type with the brackets that follow the name that it belongs to. -/
def typeWithBrackets? (parts : List Part) : Option TypeUse :=
  (types parts).head?.map fun t => { t with rank := t.rank + rank parts }

/-- A parameter, before the parameters that follow it. -/
def buildParameter (parts : List Part) : List Part :=
  let isVariadic := parts.any fun
    | .variadic => true
    | _ => false
  let rest := parts.filter fun
    | .parameter _ => true
    | _ => false
  (typeWithBrackets? parts).toList.map (fun t => .parameter ⟨t, isVariadic⟩) ++ rest

/-- A parameter list. -/
def buildParameters (parts : List Part) : List Part :=
  [.parameters (parts.filterMap fun
    | .parameter p => some p
    | _ => none)]

/-- One of several declared names. -/
def buildDeclarator (parts : List Part) : List Part :=
  [.declarator ⟨(words parts).headD "", rank parts⟩]

/-- A declaration with its modifiers. The first name of a field is declared together with its type. -/
def buildMember (parts : List Part) : List Part :=
  let parameters? := parts.findSome? fun
    | .parameters ps => some ps
    | _ => none
  let isConstructor := parts.any fun
    | .constructorName => true
    | _ => false
  let typeParameters := parts.filterMap fun
    | .typeParameter p => some p
    | _ => none
  let declarators := parts.filterMap fun
    | .declarator d => some d
    | _ => none
  match declarations parts, parameters?, words parts with
  | .mk header nested :: _, _, _ => [.declaration (.mk { header with modifiers := modifiers parts } nested)]
  | [], some ps, names =>
    if isConstructor then [.member (.constructor (modifiers parts) ps)]
    else [.member (.method (modifiers parts) typeParameters (typeWithBrackets? parts) (names.headD "") ps)]
  | [], none, name :: _ =>
    match (types parts).head? with
    | some t => [.member (.field (modifiers parts) t (⟨name, rank parts⟩ :: declarators))]
    | none => []
  | [], none, [] => []

/-- A type of the given kind. -/
def buildDeclaration (kind : Kind) (parts : List Part) : List Part :=
  [.declaration (.mk
    { kind := kind
      name := (words parts).headD ""
      typeParameters := parts.filterMap fun
        | .typeParameter p => some p
        | _ => none
      extended := parts.flatMap fun
        | .extended ts => ts
        | _ => []
      implemented := parts.flatMap fun
        | .implemented ts => ts
        | _ => []
      constants := parts.filterMap fun
        | .constant name => some name
        | _ => none
      members := parts.filterMap fun
        | .member m => some m
        | _ => none }
    (declarations parts))]

/-! ## Names and types -/

/-- A name that is kept. -/
def name : JavaRule := keepKind .identifier .word

/-- A name that is not kept. -/
def otherName : JavaRule := skipKind .identifier

/-- Whether the next token is a name. -/
def nextIsName : List Token → Bool := nextIsKind .identifier

/-- Whether the next token is a primitive type. -/
def nextIsBasic : List Token → Bool := nextIsKind .basicType

/-- A dotted name that is not kept. -/
def qualifiedName : JavaRule := separated "." otherName

/-- Pairs of brackets. -/
def dimensions : JavaRule :=
  .many (ahead [is "[", is "]"]) (seq [sign "[", .take (is "]") fun _ => [.brackets]])

/-- A primitive type's array, with at least one pair of brackets. -/
def basicArray : JavaRule :=
  seq [keepKind .basicType .basic, sign "[", (.take (is "]") fun _ => [.brackets]), dimensions]

/-- A type in a list of types: no primitive stands alone. -/
def listedType : JavaRule :=
  .build buildType (.choose nextIsBasic basicArray (seq [.phrase .referenceType, dimensions]))

/-- A list of types. -/
def typeList : JavaRule := separated "," listedType

/-- Type arguments without wildcards. -/
def plainTypeArguments : JavaRule := seq [sign "<", drop typeList, sign ">"]

/-- Plain type arguments, if there are any. -/
def optionalTypeArguments : JavaRule := ifAhead (nextIs "<") plainTypeArguments

/-- A type argument. -/
def typeArgument : JavaRule :=
  .choose (nextIs "?")
    (seq [sign "?", ifAhead (nextAmong ["extends", "super"]) (seq [anyToken, listedType])])
    listedType

/-- Type parameters. A bound is a reference type without brackets. -/
def typeParameters : JavaRule :=
  let bound := .build buildType (.phrase .referenceType)
  let bounds := ifAhead (nextIs "extends") (seq [sign "extends", separated "&" bound])
  seq [sign "<", listUntil ">" (.build buildTypeParameter (seq [name, bounds]))]

/-! ## Annotations and modifiers -/

/-- Whether an annotation comes next, and not the declaration of an annotation type. -/
def annotationNext (ts : List Token) : Bool :=
  nextIs "@" ts && !ahead [is "@", is "interface"] ts

/-- The argument of an annotation: named values or a single one. -/
def annotationArgument : JavaRule :=
  .choose (ahead [isKind .identifier, is "="])
    (separated "," (seq [otherName, sign "=", .phrase .elementValue]))
    (.phrase .elementValue)

/-- Values between braces; a comma may follow the last one. -/
def elementValues : JavaRule :=
  seq [sign "\x7b",
       .choose (nextIs "\x7d") (sign "\x7d")
         (seq [.phrase .elementValue,
               .many (fun ts => !(nextIs "\x7d" ts || ahead [is ",", is "\x7d"] ts))
                 (seq [sign ",", .phrase .elementValue]), ifAhead (nextIs ",") (sign ","), sign "\x7d"])]

/-- Modifiers and annotations; the modifiers are kept. -/
def declarationModifiers : JavaRule :=
  .many (fun ts => nextIsKind .modifier ts || annotationNext ts)
    (.choose (nextIsKind .modifier) (keepKind .modifier .modifier) (.phrase .annotationUse))

/-- The modifiers of a variable: `final` and annotations. -/
def variableModifiers : JavaRule :=
  .many (fun ts => nextIs "final" ts || annotationNext ts)
    (.choose (nextIs "final") (sign "final") (.phrase .annotationUse))

/-! ## Members -/

/-- The parameters of a method, constructor or lambda. -/
def parameters : JavaRule :=
  .build buildParameters
    (seq [sign "(", .choose (nextIs ")") (sign ")") (seq [.phrase .parameterList, sign ")"])])

/-- A block whose parts are dropped. -/
def block : JavaRule := drop (.phrase .block)

/-- The exceptions that a method throws. -/
def throwsClause : JavaRule := ifAhead (nextIs "throws") (seq [sign "throws", separated "," qualifiedName])

/-- The body of a method, or the semicolon in its place. -/
def methodBody : JavaRule := .choose (nextIs "\x7b") block (sign ";")

/-- A method from its parameters on; brackets after them belong to its type. -/
def methodRest : JavaRule := seq [parameters, dimensions, throwsClause, methodBody]

/-- A method without result, from its parameters on. -/
def voidMethodRest : JavaRule := seq [parameters, throwsClause, methodBody]

/-- A constructor from its name on. -/
def constructor : JavaRule :=
  seq [otherName, emit .constructorName, parameters, throwsClause, block]

/-- Brackets and an initial value. -/
def declaratorRest : JavaRule :=
  seq [dimensions, ifAhead (nextIs "=") (seq [sign "=", drop (.phrase .initializer)])]

/-- A declared name with its brackets and initial value. -/
def declarator : JavaRule := .build buildDeclarator (seq [name, declaratorRest])

/-- Brackets and an initial value that has to be there. -/
def constantRest : JavaRule := seq [dimensions, sign "=", drop (.phrase .initializer)]

/-- The constants of an interface after the first name. -/
def constantsRest : JavaRule :=
  seq [constantRest, .many (nextIs ",") (seq [sign ",", .build buildDeclarator (seq [name, constantRest])])]

/-- The declarations of types that may stand among members. -/
def typeCases : List ((List Token → Bool) × JavaRule) :=
  [(nextIs "class", .phrase .classDeclaration), (nextIs "enum", .phrase .enumDeclaration),
   (nextIs "interface", .phrase .interfaceDeclaration),
   (ahead [is "@", is "interface"], .phrase .annotationDeclaration)]

/-- Whether a constructor comes next. -/
def nextIsConstructor : List Token → Bool := ahead [isKind .identifier, is "("]

/-- A method or constructor with type parameters. -/
def genericMember : JavaRule :=
  seq [typeParameters,
       select [(nextIsConstructor, constructor), (nextIs "void", seq [sign "void", name, voidMethodRest])]
         (seq [.phrase .type, name, methodRest])]

/-- A member of a class or enum. -/
def member : JavaRule :=
  .build buildMember
    (seq [declarationModifiers,
          select
            ([(nextIs "void", seq [sign "void", name, voidMethodRest]), (nextIs "<", genericMember)] ++ typeCases ++
               [(nextIsConstructor, constructor)])
            (seq [.phrase .type, name,
                  .choose (nextIs "(") methodRest
                    (seq [declaratorRest, .many (nextIs ",") (seq [sign ",", declarator]), sign ";"])])])

/-- A member of an interface. Brackets after the parameters of a generic method do not count. -/
def interfaceMember : JavaRule :=
  .build buildMember
    (seq [declarationModifiers,
          select
            (typeCases ++
               [(nextIs "<",
                 seq [typeParameters, .choose (nextIs "void") (sign "void") (.phrase .type), name, parameters,
                      drop dimensions, throwsClause, methodBody]),
                (nextIs "void", seq [sign "void", name, voidMethodRest])])
            (seq [.phrase .type, name, .choose (nextIs "(") methodRest (seq [constantsRest, sign ";"])])])

/-- A member of an annotation type. -/
def annotationMember : JavaRule :=
  seq [declarationModifiers,
       select typeCases
         (seq [.phrase .type, name,
               .choose (nextIs "(")
                 (seq [sign "(", sign ")", dimensions,
                       ifAhead (nextIs "default") (seq [sign "default", .phrase .elementValue])])
                 constantsRest, sign ";"])]

/-- A parameter and those after it; a variadic parameter is the last one. -/
def parameterList : JavaRule :=
  .build buildParameter
    (seq [variableModifiers, .phrase .type,
          .choose (nextIs "...") (seq [sign "...", emit .variadic, otherName, dimensions])
            (seq [otherName, dimensions, ifAhead (nextIs ",") (seq [sign ",", .phrase .parameterList])])])

/-! ## Types -/

/-- What follows `implements`. -/
def implementsClause : JavaRule :=
  ifAhead (nextIs "implements")
    (seq [sign "implements", .build (fun parts => [.implemented (types parts)]) typeList])

/-- What follows `extends`. -/
def extendsClause (extended : JavaRule) : JavaRule :=
  ifAhead (nextIs "extends") (seq [sign "extends", .build (fun parts => [.extended (types parts)]) extended])

/-- A class. -/
def classDeclaration : JavaRule :=
  .build (buildDeclaration .classType)
    (seq [sign "class", name, ifAhead (nextIs "<") typeParameters, extendsClause (.phrase .type), implementsClause,
          .phrase .classBody])

/-- The constants of an enum, up to the end of their list. -/
def enumConstants : JavaRule :=
  .choose (nextAmong [";", "\x7d"]) .nothing
    (seq [ifAhead (nextIs "@") (seq [.phrase .annotationUse, .many annotationNext (.phrase .annotationUse)]),
          keepKind .identifier .constant,
          ifAhead (nextIs "(")
            (drop (seq [sign "(",
                        .choose (nextIs ")") (sign ")") (seq [separated "," (.phrase .expression), sign ")"])])),
          ifAhead (nextIs "\x7b") (drop (.phrase .classBody)),
          ifAhead (nextIs ",") (seq [sign ",", .phrase .enumConstants])])

/-- An enum. -/
def enumDeclaration : JavaRule :=
  .build (buildDeclaration .enumType)
    (seq [sign "enum", name, implementsClause, sign "\x7b",
          .choose (nextIs ",") (sign ",") (.phrase .enumConstants),
          ifAhead (nextIs ";") (seq [sign ";", .many (fun ts => !nextIs "\x7d" ts) (.phrase .bodyDeclaration)]),
          sign "\x7d"])

/-- An interface. -/
def interfaceDeclaration : JavaRule :=
  .build (buildDeclaration .interfaceType)
    (seq [sign "interface", name, ifAhead (nextIs "<") typeParameters, extendsClause typeList,
          inBraces (.choose (nextIs ";") (sign ";") (.phrase .interfaceMember))])

/-- An annotation type, which is not kept. -/
def annotationDeclaration : JavaRule :=
  .build (fun _ => [.unused])
    (seq [sign "@", sign "interface", otherName, inBraces (.phrase .annotationMember)])

/-- A type with its modifiers. -/
def typeDeclaration : JavaRule :=
  .build buildMember (seq [declarationModifiers, select typeCases .reject])

/-- What may stand in the body of a class besides semicolons: initializers and members. -/
def bodyDeclaration : JavaRule :=
  select
    [(nextIs ";", sign ";"), (ahead [is "static", is "\x7b"], seq [sign "static", block]), (nextIs "\x7b", block)]
    (.phrase .member)

/-! ## Packages and imports -/

/-- The annotations of a package. -/
def packageAnnotations : JavaRule := .many annotationNext (.phrase .annotationUse)

/-- A package declaration, whose name is kept. -/
def packageDeclaration : JavaRule := seq [sign "package", separated "." name, sign ";"]

/-- An import. -/
def buildImport (parts : List Part) : List Part :=
  let isOnDemand := parts.any fun
    | .onDemand => true
    | _ => false
  [.imported ⟨words parts, !(modifiers parts).isEmpty, isOnDemand⟩]

/-- An import declaration. -/
def importDeclaration : JavaRule :=
  .build buildImport
    (seq [sign "import", ifAhead (nextIs "static") (keepKind .modifier .modifier), name,
          .many (fun ts => nextIs "." ts && !ahead [is ".", is "*"] ts) (seq [sign ".", name]),
          ifAhead (nextIs ".") (seq [sign ".", sign "*", emit .onDemand]), sign ";"])

/-- All the imports. -/
def importDeclarations : JavaRule := .many (nextIs "import") importDeclaration

/-- The types of a file, among which semicolons may stand. -/
def typeDeclarations : JavaRule :=
  .many (fun ts => !ts.isEmpty) (.choose (nextIs ";") (sign ";") (.phrase .typeDeclaration))

/-! ## Statements -/

/-- How the start of a statement in a block is to be read. -/
inductive Start
  | typeDeclaration | variable | statement
  /-- A variable if that fits, and otherwise a statement. -/
  | variableOrStatement
  deriving DecidableEq, Repr

/-- The tokens after a parenthesis that closes the given number of open ones. -/
def afterParentheses : Nat → List Token → List Token
  | _, [] => []
  | opened, t :: ts =>
    if t.text = "(" then afterParentheses (opened + 1) ts
    else if t.text = ")" then (if opened ≤ 1 then ts else afterParentheses (opened - 1) ts)
    else afterParentheses opened ts

/-- The tokens after the dots and names that continue a dotted name. -/
def afterDots : List Token → List Token
  | dot :: part :: ts => if dot.text = "." then afterDots ts else dot :: part :: ts
  | [dot] => if dot.text = "." then [] else [dot]
  | [] => []

/-- Looks past `final` and annotations, of which `annotated` tells whether there was one, at most the given number of
times. After an annotation without argument the next token is not looked at. -/
def startAfter : Nat → Bool → List Token → Start
  | 0, _, _ => .statement
  | _ + 1, annotated, [] => if annotated then .variable else .statement
  | count + 1, annotated, t :: ts =>
    if t.kind = .modifier then (if t.text = "final" then startAfter count annotated ts else .typeDeclaration)
    else if annotationNext (t :: ts) then
      match afterDots (ts.drop 1) with
      | u :: us => startAfter count true (if u.text = "(" then afterParentheses 1 us else us)
      | [] => .variable
    else if t.text ∈ ["class", "enum", "interface", "@"] then .typeDeclaration
    else if annotated ∨ t.kind = .basicType then .variable
    else if t.kind = .identifier then .variableOrStatement
    else .statement

/-- How a statement in a block starts. -/
def startOf (ts : List Token) : Start :=
  if ahead [isKind .identifier, is ":"] ts || nextIs "synchronized" ts then .statement
  else startAfter (ts.length + 1) false ts

/-- A declaration of local variables. -/
def localVariables : JavaRule := seq [variableModifiers, .phrase .type, separated "," declarator, sign ";"]

/-- A statement in a block. -/
def blockStatement : JavaRule :=
  select
    [(fun ts => startOf ts = .typeDeclaration, .phrase .typeDeclaration),
     (fun ts => startOf ts = .variable, localVariables),
     (fun ts => startOf ts = .statement, .phrase .statement)]
    (.attempt localVariables (.phrase .statement))

/-- An expression in parentheses. -/
def parenthesized : JavaRule := seq [sign "(", .phrase .expression, sign ")"]

/-- One or more expressions. -/
def expressionList : JavaRule := separated "," (.phrase .expression)

/-- Arguments. -/
def arguments : JavaRule :=
  seq [sign "(", .choose (nextIs ")") (sign ")") (seq [expressionList, sign ")"])]

/-- An expression, unless the given sign is next. -/
def optionalUnless (closing : String) (body : JavaRule) : JavaRule := .choose (nextIs closing) .nothing body

/-- The condition and update of a loop after its start. -/
def loopRest : JavaRule :=
  seq [sign ";", optionalUnless ";" (.phrase .expression), sign ";", optionalUnless ")" expressionList]

/-- What controls a loop that declares a variable. -/
def variableControl : JavaRule :=
  seq [variableModifiers, .phrase .type, otherName, dimensions,
       .choose (nextIs ":") (seq [sign ":", .phrase .expression])
         (seq [optionalUnless ";"
                 (seq [ifAhead (nextIs "=") (seq [sign "=", .phrase .initializer]),
                       .many (nextIs ",") (seq [sign ",", declarator])]), loopRest])]

/-- What controls a loop. -/
def loopControl : JavaRule :=
  .attempt variableControl (seq [optionalUnless ";" expressionList, loopRest])

/-- A clause that catches exceptions. -/
def catchClause : JavaRule :=
  seq [sign "catch", sign "(", variableModifiers, separated "|" qualifiedName, otherName, sign ")", .phrase .block]

/-- One or more clauses that catch exceptions. -/
def catchClauses : JavaRule := seq [catchClause, .many (nextIs "catch") catchClause]

/-- The clause that is always run. -/
def finallyClause : JavaRule := seq [sign "finally", .phrase .block]

/-- What follows `try`. Without resources there has to be a clause after the block. -/
def tryRest : JavaRule :=
  .choose (nextIs "\x7b")
    (seq [.phrase .block,
          select
            [(nextIs "catch", seq [catchClauses, ifAhead (nextIs "finally") finallyClause]),
             (nextIs "finally", finallyClause)]
            .reject])
    (seq [sign "(", .phrase .resources, .phrase .block, ifAhead (nextIs "catch") catchClauses,
          ifAhead (nextIs "finally") finallyClause])

/-- The resources of a `try`, up to the closing parenthesis. -/
def resources : JavaRule :=
  seq [variableModifiers, .phrase .referenceType, dimensions, otherName, dimensions, sign "=", .phrase .expression,
       .choose (nextIs ")") (sign ")") (seq [sign ";", .choose (nextIs ")") (sign ")") (.phrase .resources)])]

/-- The labels and statements of a case. -/
def caseGroup : JavaRule :=
  let value := .choose (ahead [isKind .identifier, is ":"]) otherName (.phrase .expression)
  let label := seq [.choose (nextIs "case") (seq [sign "case", value]) (sign "default"), sign ":"]
  seq [label, .many (nextAmong ["case", "default"]) label,
       .many (fun ts => !nextAmong ["case", "default", "\x7d"] ts) (.phrase .blockStatement)]

/-- A statement. -/
def statement : JavaRule :=
  select
    [(nextIs "\x7b", .phrase .block), (nextIs ";", sign ";"),
     (ahead [isKind .identifier, is ":"], seq [otherName, sign ":", .phrase .statement]),
     (nextIs "if",
      seq [sign "if", parenthesized, .phrase .statement,
           ifAhead (nextIs "else") (seq [sign "else", .phrase .statement])]),
     (nextIs "assert",
      seq [sign "assert", .phrase .expression, ifAhead (nextIs ":") (seq [sign ":", .phrase .expression]), sign ";"]),
     (nextIs "switch",
      seq [sign "switch", parenthesized, sign "\x7b", .many (nextAmong ["case", "default"]) caseGroup, sign "\x7d"]),
     (nextIs "while", seq [sign "while", parenthesized, .phrase .statement]),
     (nextIs "do", seq [sign "do", .phrase .statement, sign "while", parenthesized, sign ";"]),
     (nextIs "for", seq [sign "for", sign "(", loopControl, sign ")", .phrase .statement]),
     (nextAmong ["break", "continue"], seq [anyToken, ifAhead nextIsName otherName, sign ";"]),
     (nextIs "return", seq [sign "return", optionalUnless ";" (.phrase .expression), sign ";"]),
     (nextIs "throw", seq [sign "throw", .phrase .expression, sign ";"]),
     (nextIs "synchronized", seq [sign "synchronized", parenthesized, .phrase .block]),
     (nextIs "try", seq [sign "try", tryRest])]
    (seq [.phrase .expression, sign ";"])

/-! ## Expressions -/

/-- The body of a lambda. -/
def lambdaBody : JavaRule := seq [sign "->", .choose (nextIs "\x7b") (.phrase .block) (.phrase .expression)]

/-- An expression: assignments associate to the right. -/
def expression : JavaRule :=
  seq [.phrase .conditional, ifAhead (nextAmong Token.assignments) (seq [anyToken, .phrase .expression])]

/-- An expression without assignment: a conditional, a lambda or a reference to a method, or none of them. -/
def conditional : JavaRule :=
  seq [.phrase .binary,
       select
         [(nextIs "?", seq [sign "?", .phrase .expression, sign ":", .phrase .conditional]),
          (nextIs "->", lambdaBody),
          (nextIs "::",
           seq [sign "::", optionalTypeArguments, .choose (nextIs "new") (sign "new") (.phrase .expression)])]
         .nothing]

/-- An operator between operands, where `>` up to three times in a row is one operator. -/
def infixOperator : JavaRule :=
  .choose (nextIs ">") (seq [sign ">", ifAhead (nextIs ">") (seq [sign ">", ifAhead (nextIs ">") (sign ">")])])
    anyToken

/-- Operands and the operators between them. -/
def binary : JavaRule :=
  seq [.phrase .unary,
       .many (nextAmong ("instanceof" :: Token.infixOperators))
         (.choose (nextIs "instanceof") (seq [sign "instanceof", .phrase .type])
            (seq [infixOperator, .phrase .unary]))]

/-- A primary with its selectors. The text may not end directly after either. -/
def operand : JavaRule :=
  seq [.phrase .primary, .notAtEnd, .many (nextAmong ["[", "."]) (seq [.phrase .selector, .notAtEnd]),
       .many (nextAmong Token.postfixOperators) anyToken]

/-- The names of parameters in parentheses. A comma may follow each of them. -/
def inferredParameters : JavaRule :=
  seq [sign "(", .many (fun ts => !nextIs ")" ts) (seq [otherName, ifAhead (nextIs ",") (sign ",")]), sign ")"]

/-- A lambda with its parameters in parentheses. -/
def lambda : JavaRule :=
  seq [.choose (ahead [is "(", isKind .identifier, is ","]) inferredParameters parameters, lambdaBody]

/-- A cast. -/
def cast : JavaRule := seq [sign "(", .phrase .type, sign ")", .phrase .unary]

/-- An operand with the operators before it. A parenthesis may start a lambda, a cast or an operand, in this order. -/
def unary : JavaRule :=
  seq [.many (nextAmong Token.prefixOperators) anyToken,
       .choose (nextIs "(") (.attempt lambda (.attempt cast operand)) operand]

/-- What follows `super`. -/
def superRest : JavaRule :=
  .choose (nextIs ".")
    (seq [sign ".", optionalTypeArguments, otherName, ifAhead (nextIs "(") arguments])
    arguments

/-- What follows explicit type arguments. -/
def genericCall : JavaRule :=
  .choose (nextIs "super") (seq [sign "super", superRest]) (seq [otherName, arguments])

/-- Arguments and the body of a class. -/
def classCreatorRest : JavaRule := seq [arguments, ifAhead (nextIs "\x7b") (.phrase .classBody)]

/-- Creation of an instance of an inner class. -/
def innerCreator : JavaRule :=
  seq [optionalTypeArguments, otherName,
       ifAhead (nextIs "<") (.choose (ahead [is "<", is ">"]) (seq [sign "<", sign ">"]) plainTypeArguments),
       classCreatorRest]

/-- What follows a dotted name in an operand. -/
def nameRest : JavaRule :=
  select
    [(ahead [is "[", is "]"], seq [dimensions, sign ".", sign "class"]),
     (nextIs "(", arguments),
     (ahead [is ".", is "class"], seq [sign ".", sign "class"]),
     (ahead [is ".", is "this"], seq [sign ".", sign "this"]),
     (ahead [is ".", is "<"], seq [sign ".", plainTypeArguments, genericCall]),
     (ahead [is ".", is "new"], seq [sign ".", sign "new", innerCreator]),
     (ahead [is ".", is "super", is "("], seq [sign ".", sign "super", arguments])]
    .nothing

/-- The start of an operand. -/
def primary : JavaRule :=
  select
    [(nextIsKind .literal, anyToken),
     (nextIs "(", parenthesized),
     (nextIs "this", seq [sign "this", ifAhead (nextIs "(") arguments]),
     (ahead [is "super", is "::"], sign "super"),
     (nextIs "super", seq [sign "super", superRest]),
     (nextIs "new", seq [sign "new", .phrase .creator]),
     (nextIs "<", seq [plainTypeArguments, .choose (nextIs "this") (seq [sign "this", arguments]) genericCall]),
     (nextIsName, seq [otherName, .many (ahead [is ".", isKind .identifier]) (seq [sign ".", otherName]), nameRest]),
     (nextIsBasic, seq [anyToken, dimensions, sign ".", sign "class"]),
     (nextIs "void", signs ["void", ".", "class"])]
    .reject

/-- A selector after an operand. -/
def selector : JavaRule :=
  .choose (nextIs "[") (seq [sign "[", .phrase .expression, sign "]"])
    (seq [sign ".",
          select
            [(nextIsName, seq [otherName, ifAhead (nextIs "(") arguments]),
             (ahead [is "super", is "::"], sign "super"), (nextIs "<", seq [plainTypeArguments, genericCall]),
             (nextIs "this", sign "this"), (nextIs "super", seq [sign "super", superRest]),
             (nextIs "new", seq [sign "new", innerCreator])]
            .reject])

/-- The rest of the creation of an array: brackets and values, or lengths and brackets. -/
def arrayCreatorRest : JavaRule :=
  .choose (ahead [is "[", is "]"]) (seq [dimensions, .phrase .arrayInitializer])
    (seq [.many (fun ts => nextIs "[" ts && !ahead [is "[", is "]"] ts)
            (seq [sign "[", .phrase .expression, sign "]"]), dimensions])

/-- The name of a created class. -/
def createdName : JavaRule :=
  separated "."
    (seq [otherName,
          ifAhead (nextIs "<")
            (.choose (ahead [is "<", is ">"]) (seq [sign "<", sign ">"]) (.phrase .typeArguments))])

/-- What follows `new`. An array takes no type arguments before its name. -/
def creator : JavaRule :=
  select
    [(nextIsBasic, seq [anyToken, arrayCreatorRest]),
     (nextIs "<", seq [plainTypeArguments, createdName, .choose (nextIs "[") .reject classCreatorRest])]
    (seq [createdName, .choose (nextIs "[") arrayCreatorRest classCreatorRest])

/-- The values of an array, up to the closing brace. -/
def initializers : JavaRule :=
  seq [.phrase .initializer,
       .choose (nextIs "\x7d") (sign "\x7d")
         (seq [sign ",", .choose (nextIs "\x7d") (sign "\x7d") (.phrase .initializers)])]

/-- The values of an array between braces. -/
def arrayInitializer : JavaRule :=
  seq [sign "\x7b",
       select [(nextIs ",", seq [sign ",", sign "\x7d"]), (nextIs "\x7d", sign "\x7d")] (.phrase .initializers)]

/-! ## The grammar -/

/-- The rule of each phrase. -/
def rule : Phrase → JavaRule
  | .type =>
    .build buildType
      (select
        [(nextIsBasic, seq [keepKind .basicType .basic, dimensions]),
         (nextIsName, seq [.phrase .referenceType, dimensions])]
        .reject)
  | .referenceType => separated "." (seq [name, ifAhead (nextIs "<") (drop (.phrase .typeArguments))])
  | .typeArguments => seq [sign "<", listUntil ">" typeArgument]
  | .annotationUse =>
    drop (seq [sign "@", qualifiedName,
      ifAhead (nextIs "(") (seq [sign "(", optionalUnless ")" annotationArgument, sign ")"])])
  | .elementValue =>
    select [(annotationNext, .phrase .annotationUse), (nextIs "\x7b", elementValues)] (.phrase .conditional)
  | .classBody => inBraces (.phrase .bodyDeclaration)
  | .bodyDeclaration => bodyDeclaration
  | .member => member
  | .interfaceMember => interfaceMember
  | .annotationMember => annotationMember
  | .typeDeclaration => typeDeclaration
  | .classDeclaration => classDeclaration
  | .enumDeclaration => enumDeclaration
  | .interfaceDeclaration => interfaceDeclaration
  | .annotationDeclaration => annotationDeclaration
  | .enumConstants => enumConstants
  | .parameterList => parameterList
  | .block => inBraces (.phrase .blockStatement)
  | .blockStatement => blockStatement
  | .statement => statement
  | .resources => resources
  | .expression => expression
  | .conditional => conditional
  | .binary => binary
  | .unary => unary
  | .primary => primary
  | .selector => selector
  | .creator => creator
  | .initializer => .choose (nextIs "\x7b") (.phrase .arrayInitializer) (.phrase .expression)
  | .arrayInitializer => arrayInitializer
  | .initializers => initializers

/-- Reads by a rule of this grammar. From one token to the next, phrases go less than thirty deep. -/
def read (r : JavaRule) (ts : List Token) : Reading Part :=
  let depth := 30 * (ts.length + 1)
  r.read depth (readPhrase rule depth) ts

end Typings.Source.Grammar
