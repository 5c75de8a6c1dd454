import Typings.CommandLine.Switch

/-!
# Arguments

What a command line asks for. Switches may stand anywhere; the first value names the output directory, and the values
after it, up to the next switch, name the classes.
-/

namespace Typings.CommandLine

/-- What a command line asks for, as far as it is read. -/
structure Arguments where
  output? : Option String := none
  classNames? : Option (List String) := none
  classpath : List String := []
  sourcepath : List String := []
  javap? : Option String := none
  isVerbose : Bool := false
  isQuiet : Bool := false
  /-- The words that nothing is done with. -/
  extras : List String := []
  deriving DecidableEq, Repr

/-- Why reading stops before the end. -/
inductive Interruption
  | help
  | misuse (cause : UsageError)
  deriving DecidableEq, Repr

namespace Arguments

/-- The effect of a switch without value. -/
def applyFlag (a : Arguments) : Switch → Except Interruption Arguments
  | .help => .error .help
  | .verbose => .ok { a with isVerbose := true }
  | .quiet => .ok { a with isQuiet := true }
  | .classpath | .sourcepath | .javap => .ok a

/-- The effect of a switch with its value. -/
def applyValue (a : Arguments) (s : Switch) (value : String) : Arguments :=
  match s with
  | .classpath => { a with classpath := a.classpath ++ [value] }
  | .sourcepath => { a with sourcepath := a.sourcepath ++ [value] }
  | .javap => { a with javap? := some value }
  | .help | .verbose | .quiet => a

/-- The switches that letters after a switch of one letter stand for, and what is left at the first letter that names
none. -/
def combined (s : Switch) (afterEquals : Bool) (text : List Char) : Except UsageError (List Switch × List String) :=
  match text with
  | [] => .error (.valueIgnored s "")
  | c :: cs =>
    if afterEquals ∨ c = '-' then .error (.valueIgnored s (String.ofList (c :: cs)))
    else match Switch.ofName? (String.ofList ['-', c]) with
      | none => .ok ([s], [String.ofList ('-' :: c :: cs)])
      | some next =>
        match cs with
        | [] => .ok ([s, next], [])
        | '=' :: value => (combined next true value).map fun (switches, extras) => (s :: switches, extras)
        | cs => (combined next false cs).map fun (switches, extras) => (s :: switches, extras)

/-- Whether a name is a dash and a letter. -/
def isShort (name : String) : Bool := name.toList[1]? ≠ some '-'

/-- Reads a switch; tells which words follow it and its value. -/
def takeSwitch (a : Arguments) (s : Switch) (name : String) (attached? : Option Attached) (rest : List Word) :
    Except Interruption (Arguments × List Word) :=
  match attached? with
  | none =>
    if s.takesValue then
      match rest with
      | ⟨value, .value⟩ :: rest => .ok (a.applyValue s value, rest)
      | _ => .error (.misuse (.valueMissing s))
    else (a.applyFlag s).map (·, rest)
  | some attached =>
    let value := String.ofList attached.text
    if s.takesValue then .ok (a.applyValue s value, rest)
    else if isShort name then
      match combined s attached.afterEquals attached.text with
      | .error cause => .error (.misuse cause)
      | .ok (switches, extras) =>
        (switches.foldlM applyFlag { a with extras := a.extras ++ extras }).map (·, rest)
    else .error (.misuse (.valueIgnored s value))

/-- The words for the output directory at the front, and the words after them. Separators around the value belong to
it. -/
def cutOutput? (words : List Word) : Option (List Word × List Word) :=
  let isSeparator (w : Word) : Bool := w.kind = .separator
  match words.dropWhile isSeparator with
  | ⟨value, .value⟩ :: rest =>
    some (words.takeWhile isSeparator ++ ⟨value, .value⟩ :: rest.takeWhile isSeparator, rest.dropWhile isSeparator)
  | _ => none

/-- The words for the classes at the front, of which one has to be a value, and the words after them. -/
def cutClassNames? (words : List Word) : Option (List Word × List Word) :=
  let front := words.takeWhile (!·.isSwitch)
  if front.any (·.kind = .value) then some (front, words.dropWhile (!·.isSwitch)) else none

/-- The values that some words stand for: their texts without the first separator. -/
def values (words : List Word) : List String :=
  (words.map (·.text)).erase "--"

/-- Reads the classes, if they are at the front and not read yet. -/
def takeClassNames (a : Arguments) (words : List Word) : Arguments × List Word :=
  match a.classNames?, cutClassNames? words with
  | none, some (front, rest) => ({ a with classNames? := some (values front) }, rest)
  | _, _ => (a, words)

/-- Reads as many values as there are places for. -/
def takeValues (a : Arguments) (words : List Word) : Arguments × List Word :=
  match a.output? with
  | some _ => a.takeClassNames words
  | none =>
    match cutOutput? words with
    | none => (a, words)
    | some (front, rest) => { a with output? := some ((values front).headD "") }.takeClassNames rest

/-- Adds words that nothing is done with. -/
def addExtras (a : Arguments) (words : List Word) : Arguments :=
  { a with extras := a.extras ++ words.map (·.text) }

/-- Reads words. Each round takes at least one of them. -/
def takeWords (a : Arguments) : Nat → List Word → Except Interruption Arguments
  | 0, words => .ok (a.addExtras words)
  | count + 1, words =>
    match words.span (!·.isSwitch) with
    | (_, []) =>
      let (a, rest) := a.takeValues words
      .ok (a.addExtras rest)
    | ([], ⟨_, .switch s name attached?⟩ :: rest) => do
      let (a, rest) ← a.takeSwitch s name attached? rest
      a.takeWords count rest
    | ([], w :: rest) => (a.addExtras [w]).takeWords count rest
    | (front, rest) =>
      let (b, left) := a.takeValues words
      if left.length < words.length then b.takeWords count left
      else (a.addExtras front).takeWords count rest

/-- The values that are missing. -/
def missing (a : Arguments) : List String :=
  (if a.output?.isNone then ["output"] else []) ++ if a.classNames?.isNone then ["classname"] else []

/-- Accepts arguments that are complete and have nothing else. -/
def check (a : Arguments) : Except Interruption Arguments :=
  if a.missing ≠ [] then .error (.misuse (.missing a.missing))
  else if a.extras ≠ [] then .error (.misuse (.unrecognized a.extras))
  else .ok a

/-- Reads a command line. -/
def ofTexts (texts : List String) : Except Interruption Arguments := do
  let words ← (Word.ofTexts texts).mapError .misuse
  check (← ({} : Arguments).takeWords (words.length + 1) words)

end Arguments

end Typings.CommandLine
