import Typings.Text.CodeRanges

/-!
# Classes of characters

The character classes that the readers and the quoting rules need. Each test answers for ASCII first, so that on ASCII
text no table is consulted.
-/

namespace Typings.Text

/-- White space, with the four information separators U+001C to U+001F. -/
def isBlank (c : Char) : Bool :=
  let n := c.toNat
  (9 ≤ n && n ≤ 13) || (28 ≤ n && n ≤ 32) || n == 0x85 || n == 0xa0 || n == 0x1680 || (0x2000 ≤ n && n ≤ 0x200a) ||
    n == 0x2028 || n == 0x2029 || n == 0x202f || n == 0x205f || n == 0x3000

/-- A character that ends a line. A carriage return directly before a line feed ends the line together with it. -/
def isLineBreak (c : Char) : Bool :=
  let n := c.toNat
  (10 ≤ n && n ≤ 13) || (28 ≤ n && n ≤ 30) || n == 0x85 || n == 0x2028 || n == 0x2029

/-- An ASCII letter. -/
def isAsciiLetter (c : Char) : Bool :=
  ('a' ≤ c && c ≤ 'z') || ('A' ≤ c && c ≤ 'Z')

/-- An ASCII digit. -/
def isAsciiDigit (c : Char) : Bool :=
  '0' ≤ c && c ≤ '9'

/-- A decimal digit of any script. -/
def isDecimalDigit (c : Char) : Bool :=
  if c.toNat < 128 then isAsciiDigit c else CodeRanges.contains CodeRanges.decimalDigits c.toNat

/-- The value of a decimal digit of any script. The digits of a script follow each other from zero on. -/
def decimalDigit? (c : Char) : Option Nat :=
  (CodeRanges.decimalDigits.find? fun (first, last) => first ≤ c.toNat && c.toNat ≤ last).map fun (first, _) =>
    (c.toNat - first) % 10

/-- The value of a hexadecimal digit. -/
def hexDigit? (c : Char) : Option Nat :=
  if '0' ≤ c ∧ c ≤ '9' then some (c.toNat - '0'.toNat)
  else if 'a' ≤ c ∧ c ≤ 'f' then some (c.toNat - 'a'.toNat + 10)
  else if 'A' ≤ c ∧ c ≤ 'F' then some (c.toNat - 'A'.toNat + 10)
  else none

/-- A hexadecimal digit. -/
def isHexDigit (c : Char) : Bool :=
  (hexDigit? c).isSome

/-- The value of hexadecimal digits, of which there has to be one. -/
def hexValue? : List Char → Option Nat
  | [] => none
  | cs => cs.foldlM (fun value c => (hexDigit? c).map (value * 16 + ·)) 0

/-- A letter or number of any script, or the underscore. Combining marks do not count. -/
def isWordChar (c : Char) : Bool :=
  if c.toNat < 128 then isAsciiLetter c || isAsciiDigit c || c == '_'
  else CodeRanges.contains CodeRanges.letters c.toNat || CodeRanges.contains CodeRanges.decimalDigits c.toNat ||
    CodeRanges.contains CodeRanges.letterNumbers c.toNat || CodeRanges.contains CodeRanges.otherNumbers c.toNat

/-- A character that may start a Java identifier. -/
def isIdentifierStart (c : Char) : Bool :=
  if c.toNat < 128 then isAsciiLetter c || c == '_' || c == '$'
  else CodeRanges.contains CodeRanges.letters c.toNat || CodeRanges.contains CodeRanges.letterNumbers c.toNat ||
    CodeRanges.contains CodeRanges.connectors c.toNat || CodeRanges.contains CodeRanges.currencySigns c.toNat

/-- A character that may continue a Java identifier. -/
def isIdentifierPart (c : Char) : Bool :=
  isIdentifierStart c ||
    if c.toNat < 128 then isAsciiDigit c
    else CodeRanges.contains CodeRanges.marks c.toNat || CodeRanges.contains CodeRanges.decimalDigits c.toNat

/-- The Unicode property Uppercase; title-case letters do not have it. -/
def isUpper (c : Char) : Bool :=
  if c.toNat < 128 then 'A' ≤ c && c ≤ 'Z'
  else CodeRanges.contains CodeRanges.upperRuns c.toNat || CodeRanges.alternates CodeRanges.upperAlternating c.toNat

/-- The Unicode property Lowercase; title-case letters do not have it. -/
def isLower (c : Char) : Bool :=
  if c.toNat < 128 then 'a' ≤ c && c ≤ 'z'
  else CodeRanges.contains CodeRanges.lowerRuns c.toNat || CodeRanges.alternates CodeRanges.lowerAlternating c.toNat

/-- A character that stands for itself in quoted text. -/
def isPrintable (c : Char) : Bool :=
  if c.toNat < 128 then 32 ≤ c.toNat && c.toNat < 127 else CodeRanges.contains CodeRanges.printable c.toNat

end Typings.Text
