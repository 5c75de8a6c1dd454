/-!
# The journal

What happens while classes are read, converted and saved, as a list of events in their order. Each work step takes the
journal on, also when it fails, so that the journal tells everything up to the failure.
-/

namespace Typings

/-- How important an event is. -/
inductive Level
  | debug | info | warning | error
  deriving DecidableEq, Repr

/-- The rank of a level; a journal read from some level on leaves out the lower ones. -/
def Level.rank : Level → Nat
  | debug => 0
  | info => 1
  | warning => 2
  | error => 3

/-- Something that happened. -/
inductive Event
  /-- A table of classes was asked for a class. -/
  | lookedUp (className : String)
  /-- The settings of a file are used. -/
  | settingsUsed (origin : String)
  /-- A settings file could not be read. -/
  | settingsIgnored (path reason : String)
  /-- A run starts. -/
  | started (classNames : List String) (output : String)
  /-- The conversion of a class starts, while references to other classes wait. -/
  | opened (className : String) (pendingImports : List String)
  /-- A Java file cannot be read. -/
  | unreadable (path reason : String)
  /-- A Java file is not accepted by the grammar. Why it is not depends on the parser and is not kept. -/
  | skipped (path : String)
  /-- The Java files are indexed. -/
  | indexed (files types : Nat)
  /-- A command is run. -/
  | ran (command : List String)
  /-- The listing of a class was read. -/
  | listed (className : String) (fields methods constructors : Nat)
  /-- A class was read from its source. -/
  | compiled (className : String) (fields methods constructors : Nat)
  /-- A candidate for a name is unknown to the fallback. -/
  | unknownToFallback (className : String)
  /-- A supertype is left out, since it has no source and there is no fallback. -/
  | supertypeLeftOut (className : String)
  /-- The constructors of a class were converted. -/
  | constructorsConverted (className : String) (count : Nat)
  /-- The imports of a module were collected. -/
  | importsCollected (className : String) (count : Nat)
  /-- A class was converted. -/
  | converted (className : String) (members references : Nat)
  /-- The modules of a class and everything it refers to were generated. -/
  | generated (className : String) (modules : Nat)
  /-- Modules were written. -/
  | wrote (modules : Nat) (output : String)
  /-- The modules of one of the requested classes were saved. -/
  | saved (className : String) (modules : Nat)
  /-- A run is complete. -/
  | finished (modules : Nat)
  /-- A run failed. -/
  | failed (reason : String)
  deriving DecidableEq, Repr

namespace Event

/-- The tally that closes the report on one class. -/
def tally (fields methods constructors : Nat) : String :=
  toString fields ++ " fields, " ++ toString methods ++ " methods, " ++ toString constructors ++ " constructors"

/-- The event as a line for the reader, with its level; asking a table has none. The line on a file that is not accepted
ends where the parser would say why. -/
def line? : Event → Option (Level × String)
  | lookedUp _ => none
  | settingsUsed origin => some (.debug, "Using " ++ origin)
  | settingsIgnored path reason => some (.debug, "Could not read " ++ path ++ ": " ++ reason)
  | started classNames output =>
    some (.info, "Converting classes " ++ ", ".intercalate classNames ++ " to typescript and saving result to " ++ output)
  | opened className _ => some (.info, "Converting class " ++ className)
  | unreadable path reason => some (.warning, "Could not read " ++ path ++ ": " ++ reason)
  | skipped path => some (.warning, "Skipping " ++ path ++ ", javalang cannot parse it: ")
  | indexed files types =>
    some (.debug, "Java sources: " ++ toString files ++ " files, " ++ toString types ++ " types")
  | ran command => some (.debug, "Running " ++ " ".intercalate command)
  | listed className fields methods constructors =>
    some (.debug, "javap " ++ className ++ ": " ++ tally fields methods constructors)
  | compiled className fields methods constructors =>
    some (.debug, "Source " ++ className ++ ": " ++ tally fields methods constructors)
  | unknownToFallback className => some (.debug, className ++ " not known to the fallback client")
  | supertypeLeftOut className => some (.debug, "Supertype " ++ className ++ " not on the source path, skipped")
  | constructorsConverted className count =>
    some (.debug, className ++ ": " ++ toString count ++ " public constructors")
  | importsCollected className count => some (.debug, className ++ ": " ++ toString count ++ " imports")
  | converted className members references =>
    some (.debug, className ++ ": " ++ toString members ++ " members, " ++ toString references ++ " new references")
  | generated className modules =>
    some (.debug, className ++ ": generated " ++ toString modules ++ " modules")
  | wrote modules output => some (.debug, "Wrote " ++ toString modules ++ " modules to " ++ output)
  | saved className modules => some (.debug, className ++ ": saved " ++ toString modules ++ " modules")
  | finished modules => some (.info, "Converted " ++ toString modules ++ " classes in 0.0 seconds")
  | failed reason => some (.error, "Failed to convert classes: " ++ reason)

end Event

/-- A state together with the journal of what happened. -/
structure Session (σ : Type) where
  state : σ
  journal : Array Event := #[]

/-- A step that works on a state of type `σ`, takes the journal on, and may fail; the state and the journal survive a
failure. -/
abbrev Action (σ ε α : Type) := EStateM ε (Session σ) α

namespace Action

variable {σ τ ε ε' α : Type}

/-- Adds an event to the journal. -/
def report (e : Event) : Action σ ε Unit :=
  modify fun s => { s with journal := s.journal.push e }

/-- The current state. -/
def state : Action σ ε σ :=
  return (← get).state

/-- Replaces the state. -/
def setState (state : σ) : Action σ ε Unit :=
  modify fun s => { s with state := state }

/-- Runs a step on a part of the state. -/
def onPart (view : σ → τ) (put : τ → σ → σ) (action : Action τ ε α) : Action σ ε α := fun s =>
  match action { state := view s.state, journal := s.journal } with
  | .ok a t => .ok a { state := put t.state s.state, journal := t.journal }
  | .error e t => .error e { state := put t.state s.state, journal := t.journal }

/-- Runs a step that fails for causes of another kind. -/
def withError (f : ε → ε') (action : Action σ ε α) : Action σ ε' α := fun s =>
  match action s with
  | .ok a s => .ok a s
  | .error e s => .error (f e) s

/-- What a step comes to: its value or the cause of its failure. -/
def toExcept (action : Action σ ε α) : Action σ ε' (Except ε α) := fun s =>
  match action s with
  | .ok a s => .ok (.ok a) s
  | .error e s => .ok (.error e) s

/-- A step that only comes to a value or a failure. -/
def ofExcept : Except ε α → Action σ ε α
  | .ok a => pure a
  | .error e => throw e

end Action

end Typings
