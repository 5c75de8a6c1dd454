import Typings.Configuration
import Typings.Files.Save
import Typings.Javap.Client
import Typings.Source.Client

/-!
# Exporting classes

The modules of each requested class and of everything it refers to are generated and saved, one class after the other.
All classes share one walk, so no module is generated twice. The classes come from Java sources, where the
configuration names some, and otherwise from the listings of a tool.
-/

namespace Typings

/-! ## Where classes come from -/

/-- The entries of path lists; empty ones do not count. -/
def splitPathList (values : List String) : List String :=
  values.flatMap fun value => (Text.splitAt ':' value).filter (· ≠ "")

/-- Where classes come from: the tool that lists them, and before it the roots of Java sources, if there are any. -/
structure ClientPlan where
  javap : Javap.Settings
  roots? : Option (List Files.Path) := none
  deriving DecidableEq, Repr

namespace ClientPlan

/-- The plan of a configuration. A source path without entries still is one. -/
def ofConfiguration (c : Configuration) : ClientPlan :=
  { javap := { classpath := splitPathList c.classpath, tool? := c.javap? }
    roots? := if c.sourcepath = [] then none else some ((splitPathList c.sourcepath).map .ofString) }

/-- The state of the client before it is asked. -/
def start : Source.ClientState Cache := { fallback := [] }

/-- The client of a plan in the given surroundings. -/
def client (plan : ClientPlan) (tree : Files.FileTree) (host : Javap.Host) : Client (Source.ClientState Cache) :=
  let javap := Javap.client plan.javap host
  match plan.roots? with
  | none => { load := fun className => Source.onFallback (javap.load className), known := javap.known }
  | some roots => Source.client (Source.Sources.ofRoots tree roots) (some javap)

end ClientPlan

/-! ## Failures -/

/-- Why an export fails. -/
inductive ExportError
  | configuration (cause : ConfigurationError)
  | generation (cause : GenerationError)
  | saving (cause : Files.SaveError)
  deriving DecidableEq, Repr

namespace ExportError

/-- What the user is told. Failures of other kinds than these are not reported but break the export off. -/
def report? : ExportError → Option String
  | configuration cause => cause.message?
  | generation (.load cause) => if cause.isUnresolved then cause.message? else none
  | generation (.unsupported cause) => some cause.message
  | saving cause => if cause.cause.code?.isSome then some cause.message else none

end ExportError

/-! ## The export -/

/-- What an export works on: the walk over the classes, and the files. -/
structure Workspace (σ : Type) where
  traversal : Traversal σ
  files : Files.FileTree

/-- A step of an export. -/
abbrev ExportAction (σ : Type) := Action (Workspace σ) ExportError

variable {σ : Type}

/-- Generates the modules of a class and everything it refers to, and saves them. Returns their number. -/
def exportClass (client : Client σ) (output : Files.Path) (className : String) : ExportAction σ Nat := do
  let modules ← Action.withError .generation <|
    Action.onPart (·.traversal) (fun traversal w => { w with traversal := traversal })
      (Traversal.generate client className)
  let s ← get
  match Files.saveModules output modules s.state.files with
  | .error e files => do
    Action.setState { s.state with files := files }
    throw (.saving e)
  | .ok _ files => do
    Action.setState { s.state with files := files }
    Action.report (.wrote modules.length output.text)
    Action.report (.saved className modules.length)
    return modules.length

/-- Exports classes one after the other up to the first failure. Returns the number of saved modules. -/
def exportClasses (client : Client σ) (output : Files.Path) (classNames : List String) : ExportAction σ Nat := do
  let counts ← classNames.mapM (exportClass client output)
  let total := counts.foldl (· + ·) 0
  Action.report (.finished total)
  return total

end Typings
