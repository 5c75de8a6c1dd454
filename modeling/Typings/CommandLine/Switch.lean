import Typings.Text.Quoted

/-!
# Switches

The switches of the command line with their names, and what a word that starts with a dash says.
-/

namespace Typings.CommandLine

/-- A switch. -/
inductive Switch
  | help | classpath | sourcepath | javap | verbose | quiet
  deriving DecidableEq, Repr

namespace Switch

/-- All switches in the order of the help text. -/
def all : List Switch := [help, classpath, sourcepath, javap, verbose, quiet]

/-- The names of a switch. -/
def names : Switch → List String
  | help => ["-h", "--help"]
  | classpath => ["-cp", "--classpath"]
  | sourcepath => ["--sourcepath"]
  | javap => ["--javap"]
  | verbose => ["-v", "--verbose"]
  | quiet => ["-q", "--quiet"]

/-- Whether a value belongs to the switch. -/
def takesValue : Switch → Bool
  | classpath | sourcepath | javap => true
  | help | verbose | quiet => false

/-- The switches by their names. -/
def byName : List (String × Switch) :=
  all.flatMap fun s => s.names.map fun n => (n, s)

/-- The switch of a name. -/
def ofName? (name : String) : Option Switch :=
  byName.lookup name

end Switch

/-- Why a command line is refused. -/
inductive UsageError
  | missing (names : List String)
  | unrecognized (words : List String)
  | valueMissing (switch : Switch)
  | valueIgnored (switch : Switch) (value : String)
  | ambiguous (word : String) (names : List String)
  deriving DecidableEq, Repr

/-- The text of the error. -/
def UsageError.message : UsageError → String
  | missing names => "the following arguments are required: " ++ ", ".intercalate names
  | unrecognized words => "unrecognized arguments: " ++ " ".intercalate words
  | valueMissing s => "argument " ++ "/".intercalate s.names ++ ": expected one argument"
  | valueIgnored s value =>
    "argument " ++ "/".intercalate s.names ++ ": ignored explicit argument " ++ Text.Quoted.encode value
  | ambiguous word names => "ambiguous option: " ++ word ++ " could match " ++ ", ".intercalate names

/-- Text that stands in one word with a switch: after an equals sign, or directly after a name of one letter. -/
structure Attached where
  afterEquals : Bool
  text : List Char
  deriving DecidableEq, Repr

/-- What a word is. -/
inductive WordKind
  | value
  /-- The first `--`, after which all words are values. -/
  | separator
  /-- A switch by one of its names, with the text that is attached to it. -/
  | switch (s : Switch) (name : String) (attached? : Option Attached)
  | unknownSwitch
  deriving DecidableEq, Repr

/-- A word of the command line. -/
structure Word where
  text : String
  kind : WordKind
  deriving DecidableEq, Repr

namespace Word

/-- Whether the word stands where switches stand. -/
def isSwitch (w : Word) : Bool :=
  match w.kind with
  | .switch _ _ _ | .unknownSwitch => true
  | .value | .separator => false

/-- The text before the first equals sign, and the text after it if there is one. -/
def cutAtEquals (cs : List Char) : String × Option Attached :=
  (String.ofList (cs.takeWhile (· ≠ '=')),
    match cs.dropWhile (· ≠ '=') with
    | [] => none
    | _ :: value => some ⟨true, value⟩)

/-- Whether some text starts another. -/
def startsWith (start : List Char) (text : String) : Bool :=
  start.isPrefixOf text.toList

/-- The switches that a word may abbreviate. A long name may be cut short and have a value attached; a short one may
have further letters attached, or be cut short itself. -/
def abbreviated (cs : List Char) : List WordKind :=
  if cs.take 2 = ['-', '-'] then
    let (start, attached?) := cutAtEquals cs
    (Switch.byName.filter fun (n, _) => startsWith start.toList n).map fun (n, s) => .switch s n attached?
  else
    Switch.byName.filterMap fun (n, s) =>
      if n.toList = cs.take 2 then some (.switch s n (some ⟨false, cs.drop 2⟩))
      else if startsWith cs n then some (.switch s n none)
      else none

/-- The names of the switches among some kinds of words. -/
def switchNames (kinds : List WordKind) : List String :=
  kinds.filterMap fun
    | .switch _ n _ => some n
    | _ => none

/-- Whether some characters are digits only, of which there is at least one. -/
def isDigits (cs : List Char) : Bool :=
  !cs.isEmpty && cs.all Text.isDecimalDigit

/-- Whether a word looks like a negative number; a line end may follow. -/
def isNegativeNumber (cs : List Char) : Bool :=
  let cs := if cs.getLast? = some '\n' then cs.dropLast else cs
  match cs with
  | '-' :: digits =>
    isDigits digits ||
      match digits.dropWhile (· ≠ '.') with
      | _ :: fraction => isDigits fraction && (digits.takeWhile (· ≠ '.')).all Text.isDecimalDigit
      | [] => false
  | _ => false

/-- What a word before the separator is. A word with a space is no switch unless a switch starts it. -/
def kindOf (text : String) : Except UsageError WordKind :=
  match text.toList, Switch.ofName? text with
  | '-' :: _ :: _, some s => .ok (.switch s text none)
  | '-' :: c :: cs, none =>
    let (name, attached?) := cutAtEquals ('-' :: c :: cs)
    match attached?, Switch.ofName? name with
    | some attached, some s => .ok (.switch s name (some attached))
    | _, _ =>
      match abbreviated ('-' :: c :: cs) with
      | [kind] => .ok kind
      | first :: second :: rest => .error (.ambiguous text (switchNames (first :: second :: rest)))
      | [] =>
        if isNegativeNumber ('-' :: c :: cs) ∨ ' ' ∈ c :: cs then .ok .value else .ok .unknownSwitch
  | _, _ => .ok .value

/-- The words of a command line. -/
def ofTexts : List String → Except UsageError (List Word)
  | [] => .ok []
  | text :: rest =>
    if text = "--" then .ok (⟨text, .separator⟩ :: rest.map fun t => ⟨t, .value⟩)
    else do
      let kind ← kindOf text
      return ⟨text, kind⟩ :: (← ofTexts rest)

end Word

end Typings.CommandLine
