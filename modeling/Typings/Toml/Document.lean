import Typings.Toml.Reader
import Typings.Toml.Scalar
import Typings.Toml.Value
import Typings.Text.Utf8

/-!
# TOML documents

A document is read statement by statement. Beside the table that it builds, the reader keeps which keys were declared
as tables and which hold values that can no longer be added to.
-/

namespace Typings.Toml

open Reader

/-! ## Strings and keys -/

/-- Takes a string of one line with escapes. -/
def takeBasicLine : Reader String := do
  skip 1
  return String.ofList (← takeEscaped false [] ((← get).length + 1))

/-- Takes a string of one line without escapes. -/
def takeLiteralLine : Reader String := do
  skip 1
  let text ← takeBefore "'" isControl
  skip 1
  return String.ofList text

/-- Takes one or two quotes that stand before the closing ones of a string of several lines. -/
def takeExtraQuotes (quote : String) : Reader String := do
  if !(← skipIfNext quote) then return ""
  else if !(← skipIfNext quote) then return quote
  else return quote ++ quote

/-- Takes a string of several lines; a line end right after the opening quotes does not count. -/
def takeLines (quote : String) (takeRest : Reader (List Char)) : Reader String := do
  skip 3
  let _ ← skipIfNext "\n"
  let text ← takeRest
  return String.ofList text ++ (← takeExtraQuotes quote)

/-- Takes a string. -/
def takeString : Reader String := do
  if ← nextIs "\"\"\"" then takeLines "\"" do takeEscaped true [] ((← get).length + 1)
  else if ← nextIs "\"" then takeBasicLine
  else if ← nextIs "'''" then
    takeLines "'" do
      let text ← takeBefore "'''" isControlInLines
      skip 3
      return text
  else takeLiteralLine

/-- Whether a character can stand in a key without quotes. -/
def isBareKeyChar (c : Char) : Bool :=
  Text.isAsciiLetter c || Text.isAsciiDigit c || c = '-' || c = '_'

/-- Whether a character can start a key. -/
def isKeyStart (c : Char) : Bool := isBareKeyChar c || c = '"' || c = '\''

/-- Takes one part of a key. -/
def takeKeyPart : Reader String := do
  let cs ← get
  match cs with
  | '\'' :: _ => takeLiteralLine
  | '"' :: _ => takeBasicLine
  | c :: _ =>
    if isBareKeyChar c then
      skipWhile isBareKeyChar
      return String.ofList (cs.takeWhile isBareKeyChar)
    else fail .invalidKeyStart
  | [] => fail .invalidKeyStart

/-- Takes the further parts of a key. -/
def takeKeyParts : Nat → Reader Key
  | 0 => return []
  | count + 1 => do
    skipBlanks
    if ← skipIfNext "." then
      skipBlanks
      let part ← takeKeyPart
      return part :: (← takeKeyParts count)
    else return []

/-- Takes a key and the blanks after it. -/
def takeKey : Reader Key := do
  let first ← takeKeyPart
  return first :: (← takeKeyParts ((← get).length + 1))

/-! ## Values -/

/-- Takes a date, time or number. -/
def takeScalar : Reader Value := do
  let cs ← get
  match afterScalar cs with
  | .error cause => fail cause
  | .ok rest => do
    set rest
    return .scalar (String.ofList (cs.take (cs.length - rest.length)))

/-- Takes the equals sign of an entry and the blanks after it. -/
def takeEquals : Reader Unit := do
  require "=" .equalsSignMissing
  skipBlanks

/-- An inline table as far as it is read, with the keys whose values can no longer be added to. -/
structure InlineTable where
  entries : Table := []
  frozen : List Key := []

namespace InlineTable

/-- Whether a key lies at or below one that is frozen. -/
def isFrozen (t : InlineTable) (key : Key) : Bool :=
  t.frozen.any (·.isPrefixOf key)

/-- Adds an entry. -/
def add (t : InlineTable) (key : Key) (v : Value) : Except Cause InlineTable :=
  let name := key.getLastD ""
  if t.isFrozen key then .error (.frozen key)
  else do
    let entries ← Table.modifyAt false .overwritten (fun inner =>
      if (inner.lookup name).isSome then .error (.duplicateInlineKey name) else .ok (Table.put name v inner))
      key.dropLast t.entries
    return { entries := entries, frozen := if v.isContainer then key :: t.frozen else t.frozen }

end InlineTable

/-- The value of a step, or a failure at the place where the reader stands. -/
def ofExcept {α : Type} : Except Cause α → Reader α
  | .ok a => return a
  | .error cause => fail cause

mutual

/-- Takes a value. Each value within another one starts later, so the length of the text bounds how deep they go. -/
def takeValue : Nat → Reader Value
  | 0 => fail .invalidValue
  | depth + 1 => do
    if (← nextIs "\"") || (← nextIs "'") then return .string (← takeString)
    else if ← skipIfNext "true" then return .scalar "true"
    else if ← skipIfNext "false" then return .scalar "false"
    else if ← skipIfNext "[" then
      skipArrayBlanks
      if ← skipIfNext "]" then return .array [] else return .array (← takeItems depth)
    else if ← skipIfNext "\x7b" then
      skipBlanks
      if ← skipIfNext "\x7d" then return .table [] else return .table (← takeEntries depth {})
    else takeScalar

/-- Takes the items of an array up to the closing bracket. -/
def takeItems : Nat → Reader (List Value)
  | 0 => fail .arrayNotClosed
  | depth + 1 => do
    let item ← takeValue depth
    skipArrayBlanks
    if ← skipIfNext "]" then return [item]
    else
      require "," .arrayNotClosed
      skipArrayBlanks
      if ← skipIfNext "]" then return [item] else return item :: (← takeItems depth)

/-- Takes the entries of an inline table up to the closing brace. -/
def takeEntries : Nat → InlineTable → Reader Table
  | 0, _ => fail .inlineTableNotClosed
  | depth + 1, t => do
    let key ← takeKey
    takeEquals
    let v ← takeValue depth
    let t ← ofExcept (t.add key v)
    skipBlanks
    if ← skipIfNext "\x7d" then return t.entries
    else
      require "," .inlineTableNotClosed
      skipBlanks
      takeEntries depth t

end

/-- Takes a key, the equals sign and the value. -/
def takeEntry : Reader (Key × Value) := do
  let key ← takeKey
  takeEquals
  let v ← takeValue (2 * (← get).length + 2)
  return (key, v)

/-! ## Statements -/

/-- A document as far as it is read. -/
structure Document where
  table : Table := []
  /-- The table that entries are added to. -/
  header : Key := []
  /-- The keys that can no longer be declared as tables. -/
  declared : List Key := []
  /-- The keys of that kind that count from the next header on. -/
  pending : List Key := []
  /-- The keys whose values can no longer be added to. -/
  frozen : List Key := []

namespace Document

/-- Whether a key lies at or below one that is frozen. -/
def isFrozen (d : Document) (key : Key) : Bool :=
  d.frozen.any (·.isPrefixOf key)

/-- Makes the pending keys count. -/
def settle (d : Document) : Document :=
  { d with declared := d.pending ++ d.declared, pending := [] }

/-- Declares a table and goes on in it. -/
def openTable (d : Document) (key : Key) : Except Cause Document :=
  if d.declared.contains key || d.isFrozen key then .error (.declaredTwice key)
  else do
    let table ← Table.modifyAt true .overwritten .ok key d.table
    return { d with table := table, header := key, declared := key :: d.declared }

/-- Adds a table to an array and goes on in it. What was declared within the last table of the array can be declared
again. -/
def openItem (d : Document) (key : Key) : Except Cause Document :=
  if d.isFrozen key then .error (.frozen key)
  else do
    let table ← Table.appendTable .overwritten key d.table
    let kept (keys : List Key) := keys.filter (!key.isPrefixOf ·)
    return { d with table := table, header := key, declared := key :: kept d.declared, frozen := kept d.frozen }

/-- The keys of the tables on the way to the last part of a key, below a header. -/
def inner (header key : Key) : List Key :=
  (List.range (key.length - 1)).map fun n => header ++ key.take (n + 1)

/-- Adds an entry. -/
def add (d : Document) (key : Key) (v : Value) : Except Cause Document :=
  let name := key.getLastD ""
  let parent := d.header ++ key.dropLast
  match (inner d.header key).find? d.declared.contains with
  | some k => .error (.redefined k)
  | none =>
    if d.isFrozen parent then .error (.frozen parent)
    else do
      let table ← Table.modifyAt true .overwritten (fun t =>
        if (t.lookup name).isSome then .error .overwritten else .ok (Table.put name v t)) parent d.table
      return { d with
        table := table
        pending := inner d.header key ++ d.pending
        frozen := if v.isContainer then (d.header ++ key) :: d.frozen else d.frozen }

end Document

/-- Takes a header, whose opening brackets are skipped. -/
def takeHeader (d : Document) : Reader Document := do
  let d := d.settle
  if ← skipIfNext "[[" then
    skipBlanks
    let key ← takeKey
    let d ← ofExcept (d.openItem key)
    require "]]" .tableArrayNotClosed
    return d
  else
    skip 1
    skipBlanks
    let key ← takeKey
    let d ← ofExcept (d.openTable key)
    require "]" .tableNotClosed
    return d

/-- Takes a statement that starts with the given character. -/
def takeStatement (d : Document) (c : Char) : Reader Document := do
  if isKeyStart c then
    let (key, v) ← takeEntry
    let d ← ofExcept (d.add key v)
    skipBlanks
    return d
  else if c = '[' then
    let d ← takeHeader d
    skipBlanks
    return d
  else if c = '#' then return d
  else fail .invalidStatement

/-- Takes statements up to the end of the text; each takes at least one character. -/
def takeStatements : Nat → Document → Reader Document
  | 0, d => return d
  | count + 1, d => do
    skipBlanks
    match ← get with
    | [] => return d
    | c :: _ =>
      if c = '\n' then
        skip 1
        takeStatements count d
      else
        let d ← takeStatement d c
        skipComment
        match ← get with
        | [] => return d
        | _ => do
          require "\n" .statementNotEnded
          takeStatements count d

/-- The text with a line feed for each line end of two characters. -/
def unifyLineEnds : List Char → List Char
  | [] => []
  | '\r' :: '\n' :: cs => '\n' :: unifyLineEnds cs
  | c :: cs => c :: unifyLineEnds cs

/-- Why a file cannot be read as a document. -/
inductive DocumentError
  /-- The bytes are not UTF-8. -/
  | notText
  /-- A decimal integer has more digits than are read. -/
  | tooManyDigits
  | malformed (message : String)
  deriving DecidableEq, Repr

/-- Reads the text of a document. -/
def ofText (text : List Char) : Except DocumentError Table :=
  let cs := unifyLineEnds text
  match (takeStatements (cs.length + 1) {}).run cs with
  | .ok (d, _) => .ok d.table
  | .error f => .error (if f.cause = .tooManyDigits then .tooManyDigits else .malformed (f.message cs))

/-- Reads the bytes of a document. -/
def ofBytes (bytes : ByteArray) : Except DocumentError Table :=
  match Text.Utf8.decode? bytes with
  | some cs => ofText cs
  | none => .error .notText

end Typings.Toml
