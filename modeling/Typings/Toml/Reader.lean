import Typings.Toml.Fault
import Typings.Text.Split

/-!
# Reading TOML text

A reader takes characters off the text that is left. It fails at the place where it stands.
-/

namespace Typings.Toml

/-- Takes characters off the text and may fail. -/
abbrev Reader (α : Type) := StateT (List Char) (Except Fault) α

namespace Reader

/-- Fails at the place where the reader stands. -/
def fail {α : Type} (cause : Cause) : Reader α := do
  throw ⟨cause, (← get).length⟩

/-- Skips characters of a class. -/
def skipWhile (p : Char → Bool) : Reader Unit :=
  modify (·.dropWhile p)

/-- Whether the given text comes next. -/
def nextIs (text : String) : Reader Bool :=
  return (Text.afterStart? text.toList (← get)).isSome

/-- Skips the given number of characters. -/
def skip (n : Nat) : Reader Unit :=
  modify (·.drop n)

/-- Skips the given text if it comes next, and tells whether it did. -/
def skipIfNext (text : String) : Reader Bool := do
  match Text.afterStart? text.toList (← get) with
  | some rest => do
    set rest
    return true
  | none => return false

/-- Skips the given text, or fails where it should stand. -/
def require (text : String) (cause : Cause) : Reader Unit := do
  if !(← skipIfNext text) then fail cause

/-- The text before the first occurrence of `sign`, and the text from there on. -/
def cutBefore? (sign : List Char) : List Char → Option (List Char × List Char)
  | [] => if sign.isEmpty then some ([], []) else none
  | c :: cs =>
    if (Text.afterStart? sign (c :: cs)).isSome then some ([], c :: cs)
    else (cutBefore? sign cs).map fun (before, rest) => (c :: before, rest)

/-- Takes the given text, which may not hold certain characters. -/
def takeLegal (isIllegal : Char → Bool) (before rest : List Char) : Reader (List Char) := do
  match before.dropWhile (!isIllegal ·) with
  | [] => do
    set rest
    return before
  | c :: after => do
    set (c :: after ++ rest)
    fail (.invalidCharacter c)

/-- Takes the text up to the given sign, which may not hold certain characters. -/
def takeBefore (sign : String) (isIllegal : Char → Bool) : Reader (List Char) := do
  let cs ← get
  match cutBefore? sign.toList cs with
  | some (before, rest) => takeLegal isIllegal before rest
  | none => do
    set ([] : List Char)
    fail (.expected sign)

/-- A control character other than the tab. -/
def isControl (c : Char) : Bool := (c.toNat < 32 && c ≠ '\t') || c.toNat = 127

/-- A control character other than the tab and the line feed. -/
def isControlInLines (c : Char) : Bool := isControl c && c ≠ '\n'

/-- A blank within a line. -/
def isBlank (c : Char) : Bool := c = ' ' || c = '\t'

/-- A blank or a line end. -/
def isBlankOrLineEnd (c : Char) : Bool := isBlank c || c = '\n'

/-- Skips blanks within a line. -/
def skipBlanks : Reader Unit := skipWhile isBlank

/-- Skips a comment, if there is one. -/
def skipComment : Reader Unit := do
  match ← get with
  | '#' :: cs => discard (takeLegal isControl (cs.takeWhile (· ≠ '\n')) (cs.dropWhile (· ≠ '\n')))
  | _ => return

/-- Skips blanks, line ends and comments. -/
def skipCommentsAndLineEnds : Nat → Reader Unit
  | 0 => return
  | count + 1 => do
    let before := (← get).length
    skipWhile isBlankOrLineEnd
    skipComment
    if (← get).length ≠ before then skipCommentsAndLineEnds count

/-- Skips blanks, line ends and comments within an array. -/
def skipArrayBlanks : Reader Unit := do
  skipCommentsAndLineEnds ((← get).length + 1)

/-! ## Strings -/

/-- The characters with an escape of one letter. -/
def simpleEscapes : List (Char × Char) :=
  [('b', '\x08'), ('t', '\t'), ('n', '\n'), ('f', '\x0c'), ('r', '\r'), ('"', '"'), ('\\', '\\')]

/-- Takes the character with the given number of hexadecimal digits. -/
def takeHex (count : Nat) : Reader Char := do
  let digits := (← get).take count
  match Text.hexValue? digits with
  | some n =>
    if digits.length ≠ count then fail .invalidHex
    skip count
    if n.isValidChar then return Char.ofNat n else fail .notScalarValue
  | none => fail .invalidHex

/-- Takes what an escape stands for, from the backslash on. In a string of several lines, a backslash at the end of a
line takes the blanks and line ends after it away. -/
def takeEscape (isMultiline : Bool) : Reader (Option Char) := do
  let letter? := (← get)[1]?
  skip 2
  match letter? with
  | none => fail .unescapedBackslash
  | some c =>
    if isMultiline ∧ isBlankOrLineEnd c then
      if c ≠ '\n' then
        skipBlanks
        match ← get with
        | [] => return none
        | d :: _ => if d ≠ '\n' then fail .unescapedBackslash else skip 1
      skipWhile isBlankOrLineEnd
      return none
    else if c = 'u' then return some (← takeHex 4)
    else if c = 'U' then return some (← takeHex 8)
    else match simpleEscapes.lookup c with
      | some d => return some d
      | none => fail .unescapedBackslash

/-- Takes the rest of a string with escapes, after the text in `seen`, whose last character comes first. -/
def takeEscaped (isMultiline : Bool) (seen : List Char) : Nat → Reader (List Char)
  | 0 => fail .stringNotTerminated
  | count + 1 => do
    match ← get with
    | [] => fail .stringNotTerminated
    | '\\' :: _ => do
      let c? ← takeEscape isMultiline
      takeEscaped isMultiline (c?.toList ++ seen) count
    | c :: _ =>
      if c = '"' then
        if !isMultiline then
          skip 1
          return seen.reverse
        else if ← skipIfNext "\"\"\"" then return seen.reverse
      if (if isMultiline then isControlInLines c else isControl c) then fail (.illegalCharacter c)
      skip 1
      takeEscaped isMultiline (c :: seen) count

end Reader

end Typings.Toml
