import Typings.Client
import Typings.Java.Inheritance
import Typings.Javap.Listing

/-!
# Classes from listings

A client that has the `javap` tool list each class and merges in what the supertypes hand down. A class that was loaded
once, also as a supertype, is kept and not listed again.
-/

namespace Typings.Javap

/-- How a run of the tool ends. -/
inductive Outcome
  | notStarted (reason : String)
  | finished (stdout stderr : String) (code : Int)
  deriving DecidableEq, Repr

/-- The surroundings in which the tool runs: where it is found, and what it says of each class. -/
structure Host where
  located? : Option String := none
  outcomes : List (String × Outcome) := []
  /-- Why no tool can be started at all. -/
  obstacle? : Option String := none
  deriving Repr

/-- What a run for the class comes to; the tool does not find a class without a recorded outcome. -/
def Host.outcome (host : Host) (className : String) : Outcome :=
  match host.obstacle?, host.outcomes.lookup className with
  | some reason, _ => .notStarted reason
  | none, some o => o
  | none, none => .finished ("Error: class not found: " ++ className ++ "\n") "" 1

/-- How the tool is called. -/
structure Settings where
  classpath : List String := []
  /-- The tool to run instead of the one that the host finds; an empty one counts as none. -/
  tool? : Option String := none
  deriving DecidableEq, Repr

/-- The tool to run. -/
def toolPath? (settings : Settings) (host : Host) : Option String :=
  (settings.tool?.filter (· ≠ "")).or (host.located?.filter (· ≠ ""))

/-- The command that lists a class. -/
def command (tool : String) (classpath : List String) (className : String) : List String :=
  [tool, "-public", "-s"] ++ (if classpath.isEmpty then [] else ["-cp", ":".intercalate classpath]) ++ [className]

/-- Characters are compared without regard to case, by which the long s counts as an s. -/
def foldCase (c : Char) : Char :=
  if c = 'ſ' then 's' else c.toLower

/-- Whether the output says that there is no such class. -/
def saysNotFound (output : List Char) : Bool :=
  Text.occursIn "class not found".toList (output.map foldCase)

/-- What an outcome says about the class. -/
def Outcome.listing (className : String) : Outcome → Except LoadError Listing
  | .notStarted reason => .error (.unresolved className ("could not run javap: " ++ reason))
  | .finished stdout stderr code =>
    let output := stdout ++ stderr
    if saysNotFound output.toList then .error (.classNotFound className)
    else if code ≠ 0 then
      let reason := Text.trimmed output
      .error (.unresolved className (if reason = "" then "javap failed" else reason))
    else match Listing.ofOutput stdout with
      | .error cause => .error (.descriptor cause)
      | .ok none => .error (.accessDenied className)
      | .ok (some l) => .ok l

/-- Lists a class by running the tool. -/
def describe {σ : Type} (settings : Settings) (host : Host) (className : String) : Action σ LoadError Listing := do
  match toolPath? settings host with
  | none => throw (.unresolved className "javap not found on PATH, ensure a JDK is installed")
  | some tool =>
    Action.report (.ran (command tool settings.classpath className))
    let l ← Action.ofExcept ((host.outcome className).listing className)
    Action.report (.listed className l.fields.length l.methods.length l.constructors.length)
    return l

/-- The supertypes of a listed class: its superclass, which is the root of the hierarchy when a class other than the
root names none, and then its interfaces. -/
def Listing.supertypes (l : Listing) (className : String) : List String :=
  let implicit? := if l.isInterface ∨ className = Java.objectClass then none else some Java.objectClass
  (l.superclass?.or implicit?).toList ++ l.interfaces

/-- The class with what its supertypes hand down. -/
def Listing.withInherited (l : Listing) (className : String) (supertypes : List Java.ClassInfo) : Java.ClassInfo :=
  { name := className
    modifiers := l.modifiers
    isInterface := l.isInterface
    fields := Java.inheritFields l.fields supertypes
    methods := Java.inheritMethods l.methods supertypes
    constructors := l.constructors }

/-- Loads a class and, before it, its supertypes. A chain of supertypes that is longer than there are classes comes back
to a class in it, so it is enough to go down `depth` steps. -/
def load (settings : Settings) (host : Host) : Nat → String → Action Cache LoadError Java.ClassInfo
  | 0, _ => throw .cyclicInheritance
  | depth + 1, className => do
    match (← Action.state).lookup className with
    | some info => return info
    | none =>
      let l ← describe settings host className
      let supertypes ← (l.supertypes className).mapM (load settings host depth)
      let info := l.withInherited className supertypes
      Action.setState ((className, info) :: (← Action.state))
      return info

/-- The client that lists classes. -/
def client (settings : Settings) (host : Host) : Client Cache where
  load := load settings host (host.outcomes.length + 1)
  known := host.outcomes.map (·.1)

end Typings.Javap
