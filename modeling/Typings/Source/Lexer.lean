import Typings.Source.Token
import Typings.Text.Split

/-!
# Cutting Java text into tokens

Unicode escapes are replaced first. Then, at each position, white space and comments are skipped, and otherwise the
first kind of token that fits is taken.
-/

namespace Typings.Source

/-- Why a Java text cannot be read. -/
inductive SourceError
  /-- The text is not accepted. -/
  | rejected
  /-- The text ends within its package or import declarations. -/
  | headerTruncated
  /-- The text ends within a number or directly after an operand. -/
  | operandTruncated
  deriving DecidableEq, Repr

namespace Lexer

/-! ## Unicode escapes -/

/-- The character with the given number; a number that is no character is replaced. -/
def charOf (n : Nat) : Char :=
  if n.isValidChar then Char.ofNat n else '\uFFFD'

/-- A character as it counts in a number: white space and decimal digits of any script count as a blank and as ASCII
digits. -/
def numeral (c : Char) : Char :=
  if c.toNat < 128 then c
  else if Text.isBlank c then ' '
  else ((Text.decimalDigit? c).map Nat.digitChar).getD c

/-- White space that may stand around a number. The information separators do not count. -/
def isPadding (c : Char) : Bool :=
  c == ' ' || ('\t' ≤ c && c ≤ '\r')

/-- What follows the mark `0x` of hexadecimal digits, with which one underscore may go. -/
def afterRadixMark : List Char → List Char
  | '0' :: 'x' :: '_' :: cs | '0' :: 'X' :: '_' :: cs | '0' :: 'x' :: cs | '0' :: 'X' :: cs => cs
  | cs => cs

/-- The value of hexadecimal digits that may follow the mark `0x` and have single underscores between them. -/
def digitsValue? (cs : List Char) : Option Nat :=
  let runs := (afterRadixMark cs).splitOn '_'
  if [] ∈ runs then none else Text.hexValue? runs.flatten

/-- The number in an escape. It may have a sign and white space around it; only zero may have a minus sign. -/
def escapeNumber? (cs : List Char) : Option Nat :=
  let padded := (cs.map numeral).dropWhile isPadding
  match (padded.reverse.dropWhile isPadding).reverse with
  | '+' :: cs => digitsValue? cs
  | '-' :: cs => (digitsValue? cs).filter (· = 0)
  | cs => digitsValue? cs

/-- Replaces the escapes, where `since` is the text after the last one, last character first. A backslash that does not
start an escape takes the next character with it. If the text ends where the digits of an escape should be, the text
since the last escape stands twice. -/
def replaceEscapes (since : List Char) (cs : List Char) : Except SourceError (List Char) :=
  match cs with
  | [] => .ok since.reverse
  | '\\' :: 'u' :: cs =>
    match _h : cs.dropWhile (· = 'u') with
    | [] => .ok (since.reverse ++ since.reverse ++ '\\' :: 'u' :: cs)
    | d :: ds =>
      match escapeNumber? ((d :: ds).take 4) with
      | none => .error .rejected
      | some n => do
        let rest ← replaceEscapes [] (ds.drop 3)
        return since.reverse ++ charOf n :: rest
  | '\\' :: c :: cs => replaceEscapes (c :: '\\' :: since) cs
  | c :: cs => replaceEscapes (c :: since) cs
termination_by cs.length
decreasing_by
  · have := (List.dropWhile_suffix (l := cs) (· = 'u')).length_le
    simp only [_h, List.length_cons, List.length_drop] at this ⊢
    omega
  · simp only [List.length_cons]
    omega
  · simp only [List.length_cons]
    omega

/-! ## Literals -/

/-- The text after the digits at its front, where `mark` is the text after the last digit. Underscores may stand between
digits; an `l` after the digits belongs to them. -/
def afterDigits (isDigit : Char → Bool) (mark : List Char) : List Char → List Char
  | [] => mark
  | c :: cs =>
    if isDigit c then afterDigits isDigit cs cs
    else if c = '_' then afterDigits isDigit mark cs
    else if c = 'l' ∨ c = 'L' then mark.tail
    else mark

/-- Skips digits; the text may not end before them. -/
def skipDigits (isDigit : Char → Bool) : List Char → Except SourceError (List Char)
  | [] => .error .operandTruncated
  | cs => .ok (afterDigits isDigit cs cs)

/-- Whether a character is an octal digit. -/
def isOctalDigit (c : Char) : Bool := '0' ≤ c && c ≤ '7'

/-- Skips one character of a class, if there is one. -/
def skipOne (among : List Char) : List Char → List Char
  | c :: cs => if c ∈ among then cs else c :: cs
  | [] => []

/-- Skips the suffix of a floating-point number. -/
def skipSuffix (cs : List Char) : List Char := skipOne ['f', 'F', 'd', 'D'] cs

/-- Skips a sign. -/
def skipSign (cs : List Char) : List Char := skipOne ['+', '-'] cs

/-- Skips a decimal integer or a floating-point number. -/
def skipDecimal (cs : List Char) : Except SourceError (List Char) := do
  let whole ← skipDigits Text.isAsciiDigit cs
  let fraction ← match whole with
    | '.' :: rest => skipDigits Text.isAsciiDigit rest
    | rest => pure rest
  let exponent ← match fraction with
    | 'e' :: rest | 'E' :: rest => skipDigits Text.isAsciiDigit (skipSign rest)
    | rest => pure rest
  return skipSuffix exponent

/-- Skips what follows `0x`. A fraction needs an exponent. -/
def skipHex (cs : List Char) : Except SourceError (List Char) := do
  let whole ← skipDigits Text.isHexDigit cs
  let exponent (rest : List Char) : Except SourceError (List Char) := do
    return skipSuffix (← skipDigits Text.isAsciiDigit (skipSign rest))
  match whole with
  | '.' :: rest =>
    match ← skipDigits Text.isHexDigit rest with
    | 'p' :: rest | 'P' :: rest => exponent rest
    | _ => throw .rejected
  | 'p' :: rest | 'P' :: rest => exponent rest
  | rest => return rest

/-- Skips the number at the front of the text. -/
def skipNumber : List Char → Except SourceError (List Char)
  | ['0'] => .error .operandTruncated
  | '0' :: c :: cs =>
    if c = 'x' ∨ c = 'X' then skipHex cs
    else if c = 'b' ∨ c = 'B' then skipDigits (fun d => d = '0' || d = '1') cs
    else if isOctalDigit c then skipDigits isOctalDigit (c :: cs)
    else skipDecimal ('0' :: c :: cs)
  | cs => skipDecimal cs

/-- What may follow a backslash between quotes. -/
def escapable : List Char := "btnfru\"'\\01234567".toList

/-- Skips the text up to the closing quote and the quote itself. -/
def skipQuoted (quote : Char) : List Char → Except SourceError (List Char)
  | [] => .error .rejected
  | '\\' :: c :: cs => if c ∈ escapable then skipQuoted quote cs else .error .rejected
  | c :: cs => if c = quote then .ok cs else skipQuoted quote cs

/-- Skips a comment up to `*/`. -/
def skipComment : List Char → Except SourceError (List Char)
  | [] => .error .rejected
  | '*' :: '/' :: cs => .ok cs
  | _ :: cs => skipComment cs

/-! ## Tokens -/

/-- The operator at the front of the text, and what follows it. -/
def operator? (cs : List Char) : Option (Token × List Char) :=
  Token.operators.findSome? fun o => (Text.afterStart? o.toList cs).map (⟨.operator, o⟩, ·)

/-- The token at the front of a text that is not empty, or none where white space or a comment was skipped; and what
follows it. -/
def next (c : Char) (cs : List Char) : Except SourceError (Option Token × List Char) :=
  if Text.isBlank c then .ok (none, cs.dropWhile Text.isBlank)
  else match c, cs with
  | '/', '/' :: rest => .ok (none, rest.dropWhile (· ≠ '\n'))
  | '/', '*' :: rest => do return (none, ← skipComment rest)
  | '.', '.' :: '.' :: rest => .ok (some ⟨.operator, "..."⟩, rest)
  | '@', rest => .ok (some ⟨.at, "@"⟩, rest)
  | c, cs =>
    if c = '.' ∧ cs.head?.any Text.isAsciiDigit then do return (some .ofLiteral, ← skipDecimal (c :: cs))
    else if c ∈ Token.separators then .ok (some ⟨.separator, String.singleton c⟩, cs)
    else if c = '\'' ∨ c = '"' then do return (some .ofLiteral, ← skipQuoted c cs)
    else if Text.isAsciiDigit c then do return (some .ofLiteral, ← skipNumber (c :: cs))
    else if Text.isIdentifierStart c then
      .ok (some (.ofWord (String.ofList (c :: cs.takeWhile Text.isIdentifierPart))), cs.dropWhile Text.isIdentifierPart)
    else match operator? (c :: cs) with
      | some (t, rest) => .ok (some t, rest)
      | none => .error .rejected

/-- The tokens of a text after those in `seen`, the last of which comes first. A text has at most as many tokens as
characters. -/
def tokensOf (seen : List Token) : Nat → List Char → Except SourceError (List Token)
  | _, [] => .ok seen.reverse
  | 0, _ :: _ => .error .rejected
  | count + 1, c :: cs =>
    match next c cs with
    | .error e => .error e
    | .ok (t?, rest) => tokensOf (t?.toList ++ seen) count rest

end Lexer

/-- Cuts a Java text into tokens. -/
def tokenize (text : List Char) : Except SourceError (List Token) := do
  let cs ← Lexer.replaceEscapes [] text
  Lexer.tokensOf [] cs.length cs

end Typings.Source
