/-!
# Tokens of Java

The classes of tokens that the grammar tells apart. Of literals only the class matters, so their text is not kept.
-/

namespace Typings.Source

/-- The class of a token. -/
inductive TokenKind
  | identifier | keyword | basicType | modifier | literal | separator | operator | at
  deriving DecidableEq, Repr

/-- A token. -/
structure Token where
  kind : TokenKind
  text : String
  deriving DecidableEq, Repr

namespace Token

/-- The names of the primitive types. -/
def basicTypes : List String :=
  ["boolean", "byte", "char", "double", "float", "int", "long", "short"]

/-- The keywords that are modifiers. -/
def modifiers : List String :=
  ["abstract", "default", "final", "native", "private", "protected", "public", "static", "strictfp", "synchronized",
   "transient", "volatile"]

/-- The keywords that are neither primitive types nor modifiers. -/
def otherKeywords : List String :=
  ["assert", "break", "case", "catch", "class", "const", "continue", "do", "else", "enum", "extends", "finally", "for",
   "goto", "if", "implements", "import", "instanceof", "interface", "new", "package", "return", "super", "switch",
   "this", "throw", "throws", "try", "void", "while"]

/-- The words that are literals. -/
def literalWords : List String := ["true", "false", "null"]

/-- The token that a word is. -/
def ofWord (word : String) : Token :=
  if word ∈ basicTypes then ⟨.basicType, word⟩
  else if word ∈ modifiers then ⟨.modifier, word⟩
  else if word ∈ otherKeywords then ⟨.keyword, word⟩
  else if word ∈ literalWords then ⟨.literal, word⟩
  else ⟨.identifier, word⟩

/-- A number or a text between quotes. -/
def ofLiteral : Token := ⟨.literal, "literal"⟩

/-- The separators. -/
def separators : List Char := ['(', ')', '{', '}', '[', ']', ';', ',', '.']

/-- The operators, the longer ones first. A shift to the right is written by single `>`. -/
def operators : List String :=
  [">>>=", ">>=", "<<=", "...", "%=", "^=", "|=", "&=", "/=", "*=", "-=", "+=", "<<", "--", "++", "||", "&&", "!=",
   ">=", "<=", "==", "->", "::", "%", "^", "|", "&", "/", "*", "-", "+", ":", "?", "~", "!", "<", ">", "="]

/-- The operators that assign. -/
def assignments : List String :=
  ["=", "+=", "-=", "*=", "/=", "&=", "|=", "^=", "%=", "<<=", ">>=", ">>>="]

/-- The operators between two operands. -/
def infixOperators : List String :=
  ["||", "&&", "|", "^", "&", "==", "!=", "<", ">", "<=", ">=", "<<", "+", "-", "*", "/", "%"]

/-- The operators before an operand. -/
def prefixOperators : List String := ["++", "--", "!", "~", "+", "-"]

/-- The operators after an operand. -/
def postfixOperators : List String := ["++", "--"]

end Token

end Typings.Source
