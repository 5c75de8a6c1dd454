import Typings.Text.Quoted

/-!
# Faults in TOML documents

Why a document cannot be read and where. A place is given by the number of characters from there to the end.
-/

namespace Typings.Toml

/-- Why a document cannot be read. -/
inductive Cause
  | invalidStatement
  | statementNotEnded
  | expected (sign : String)
  | invalidCharacter (c : Char)
  | illegalCharacter (c : Char)
  | declaredTwice (key : List String)
  | frozen (key : List String)
  | redefined (key : List String)
  | overwritten
  | duplicateInlineKey (name : String)
  | tableNotClosed
  | tableArrayNotClosed
  | equalsSignMissing
  | invalidKeyStart
  | arrayNotClosed
  | inlineTableNotClosed
  | unescapedBackslash
  | invalidHex
  | notScalarValue
  | stringNotTerminated
  | invalidDate
  | invalidValue
  /-- A decimal integer has more digits than are read. -/
  | tooManyDigits
  deriving DecidableEq, Repr

/-- A dotted key as messages show it. -/
def keyText : List String → String
  | [name] => "(" ++ Text.Quoted.encode name ++ ",)"
  | key => "(" ++ ", ".intercalate (key.map Text.Quoted.encode) ++ ")"

/-- The text for a cause. -/
def Cause.text : Cause → String
  | invalidStatement => "Invalid statement"
  | statementNotEnded => "Expected newline or end of document after a statement"
  | expected sign => "Expected " ++ Text.Quoted.encode sign
  | invalidCharacter c => "Found invalid character " ++ Text.Quoted.encode (String.singleton c)
  | illegalCharacter c => "Illegal character " ++ Text.Quoted.encode (String.singleton c)
  | declaredTwice key => "Cannot declare " ++ keyText key ++ " twice"
  | frozen key => "Cannot mutate immutable namespace " ++ keyText key
  | redefined key => "Cannot redefine namespace " ++ keyText key
  | overwritten => "Cannot overwrite a value"
  | duplicateInlineKey name => "Duplicate inline table key " ++ Text.Quoted.encode name
  | tableNotClosed => "Expected ']' at the end of a table declaration"
  | tableArrayNotClosed => "Expected ']]' at the end of an array declaration"
  | equalsSignMissing => "Expected '=' after a key in a key/value pair"
  | invalidKeyStart => "Invalid initial character for a key part"
  | arrayNotClosed => "Unclosed array"
  | inlineTableNotClosed => "Unclosed inline table"
  | unescapedBackslash => "Unescaped '\\' in a string"
  | invalidHex => "Invalid hex value"
  | notScalarValue => "Escaped character is not a Unicode scalar value"
  | stringNotTerminated => "Unterminated string"
  | invalidDate => "Invalid date or datetime"
  | invalidValue => "Invalid value"
  | tooManyDigits => "Exceeds the limit (4300 digits) for integer string conversion"

/-- A cause with its place. -/
structure Fault where
  cause : Cause
  /-- The number of characters from the place to the end of the document. -/
  left : Nat
  deriving DecidableEq, Repr

/-- The line and column of a place, both counted from one. -/
def lineAndColumn (before : List Char) : Nat × Nat :=
  (before.count '\n' + 1, (before.reverse.takeWhile (· ≠ '\n')).length + 1)

/-- The message for a fault in the given document. -/
def Fault.message (document : List Char) (f : Fault) : String :=
  let place :=
    if f.left = 0 then "end of document"
    else
      let (line, column) := lineAndColumn (document.take (document.length - f.left))
      "line " ++ toString line ++ ", column " ++ toString column
  f.cause.text ++ " (at " ++ place ++ ")"

end Typings.Toml
