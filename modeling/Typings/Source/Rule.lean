import Typings.Source.Token

/-!
# Grammar rules

A grammar is data: a rule for each of its phrases, made of tokens, sequences, choices and loops. Choices and loops look
at the tokens ahead, and a choice that is made stays made, except in an attempt, which tries another rule when the first
one does not fit. What a rule reads is a list of parts, which a phrase may build into one.
-/

namespace Typings.Source

/-- Why tokens do not fit a rule. -/
inductive Mismatch
  /-- A token does not fit, or the tokens end where one is looked at. -/
  | rejected
  /-- The tokens end where one has to be taken. -/
  | ended
  /-- The tokens end directly after an operand. -/
  | operandEnded
  deriving DecidableEq, Repr

/-- A rule that names phrases by `ν` and reads parts of type `π`. -/
inductive Rule (ν π : Type)
  /-- Reads nothing. -/
  | nothing
  /-- Fits nothing. -/
  | reject
  /-- Takes a token that passes the test. -/
  | take (test : Token → Bool) (parts : String → List π)
  /-- Reads the one rule and then the other. -/
  | andThen (first second : Rule ν π)
  /-- Reads one of two rules, as the tokens ahead say. -/
  | choose (test : List Token → Bool) (ifSo ifNot : Rule ν π)
  /-- Reads a rule again and again while the tokens ahead pass the test. -/
  | many (test : List Token → Bool) (body : Rule ν π)
  /-- Reads the first rule or, when a token does not fit it, the second one instead. -/
  | attempt (first second : Rule ν π)
  /-- Reads a phrase. -/
  | phrase (name : ν)
  /-- Reads a rule and builds its parts into others. -/
  | build (f : List π → List π) (body : Rule ν π)
  /-- Reads nothing, but the tokens may not end here. -/
  | notAtEnd

/-- What reading comes to: the parts read and the tokens left. -/
abbrev Reading (π : Type) := Except Mismatch (List π × List Token)

namespace Rule

variable {ν π : Type}

/-- Reads by `body` while the tokens pass the test, at most the given number of times. -/
def readMany (test : List Token → Bool) (body : List Token → Reading π) : Nat → List Token → Reading π
  | 0, _ => .error .rejected
  | count + 1, ts =>
    if test ts then
      match body ts with
      | .error e => .error e
      | .ok (parts, ts) => (readMany test body count ts).map fun (more, ts) => (parts ++ more, ts)
    else .ok ([], ts)

/-- Reads by a rule, given how to read phrases and how often a loop may go round. -/
def read (limit : Nat) (readPhrase : ν → List Token → Reading π) : Rule ν π → List Token → Reading π
  | .nothing, ts => .ok ([], ts)
  | .reject, _ => .error .rejected
  | .take _ _, [] => .error .ended
  | .take test parts, t :: ts => if test t then .ok (parts t.text, ts) else .error .rejected
  | .andThen first second, ts =>
    match read limit readPhrase first ts with
    | .error e => .error e
    | .ok (parts, ts) => (read limit readPhrase second ts).map fun (more, ts) => (parts ++ more, ts)
  | .choose test ifSo ifNot, ts =>
    if test ts then read limit readPhrase ifSo ts else read limit readPhrase ifNot ts
  | .many test body, ts => readMany test (read limit readPhrase body) limit ts
  | .attempt first second, ts =>
    match read limit readPhrase first ts with
    | .error .rejected => read limit readPhrase second ts
    | r => r
  | .phrase name, ts => readPhrase name ts
  | .build f body, ts => (read limit readPhrase body ts).map fun (parts, ts) => (f parts, ts)
  | .notAtEnd, [] => .error .operandEnded
  | .notAtEnd, ts => .ok ([], ts)

/-- Reads a phrase of a grammar, with phrases in phrases up to the given depth. -/
def readPhrase (rule : ν → Rule ν π) : Nat → ν → List Token → Reading π
  | 0, _, _ => .error .rejected
  | depth + 1, name, ts => (rule name).read depth (readPhrase rule depth) ts

/-! ## Ways to write rules -/

/-- Whether the tokens ahead pass the tests, one each. -/
def ahead : List (Token → Bool) → List Token → Bool
  | [], _ => true
  | _ :: _, [] => false
  | test :: tests, t :: ts => test t && ahead tests ts

/-- Whether a token is the given word or sign. -/
def is (text : String) (t : Token) : Bool := t.text = text

/-- Whether a token is of the given kind. -/
def isKind (kind : TokenKind) (t : Token) : Bool := t.kind = kind

/-- Whether the next token is the given word or sign. -/
def nextIs (text : String) : List Token → Bool := ahead [is text]

/-- Whether the next token is one of the given words and signs. -/
def nextAmong (texts : List String) : List Token → Bool := ahead [fun t => t.text ∈ texts]

/-- Whether the next token is of the given kind. -/
def nextIsKind (kind : TokenKind) : List Token → Bool := ahead [isKind kind]

/-- Takes the given word or sign. -/
def sign (text : String) : Rule ν π := .take (is text) fun _ => []

/-- Reads rules one after the other. -/
def seq (rules : List (Rule ν π)) : Rule ν π := rules.foldr andThen nothing

/-- Takes the given words and signs. -/
def signs (texts : List String) : Rule ν π := seq (texts.map sign)

/-- Takes any token. -/
def anyToken : Rule ν π := .take (fun _ => true) fun _ => []

/-- Takes a token of the given kind. -/
def skipKind (kind : TokenKind) : Rule ν π := .take (isKind kind) fun _ => []

/-- Takes a token of the given kind and makes a part of its text. -/
def keepKind (kind : TokenKind) (part : String → π) : Rule ν π := .take (isKind kind) fun text => [part text]

/-- Reads the rule if the tokens ahead pass the test. -/
def ifAhead (test : List Token → Bool) (body : Rule ν π) : Rule ν π := .choose test body .nothing

/-- Reads the first rule whose test the tokens ahead pass, or else the last rule. -/
def select (cases : List ((List Token → Bool) × Rule ν π)) (otherwise : Rule ν π) : Rule ν π :=
  cases.foldr (fun (test, body) rest => .choose test body rest) otherwise

/-- Reads one or more times, with the given sign in between. -/
def separated (separator : String) (body : Rule ν π) : Rule ν π :=
  seq [body, .many (nextIs separator) (seq [sign separator, body])]

/-- Reads one or more times, with commas in between and the given sign at the end. -/
def listUntil (closing : String) (body : Rule ν π) : Rule ν π :=
  seq [body, .many (fun ts => !nextIs closing ts) (seq [sign ",", body]), sign closing]

/-- Reads between braces until the closing one is next. -/
def inBraces (body : Rule ν π) : Rule ν π :=
  seq [sign "\x7b", .many (fun ts => !nextIs "\x7d" ts) body, sign "\x7d"]

/-- Reads the rule and drops its parts. -/
def drop (body : Rule ν π) : Rule ν π := .build (fun _ => []) body

/-- Makes a part of nothing. -/
def emit (part : π) : Rule ν π := .build (fun _ => [part]) .nothing

end Rule

end Typings.Source
