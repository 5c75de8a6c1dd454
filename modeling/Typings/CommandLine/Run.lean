import Typings.CommandLine.Arguments
import Typings.CommandLine.Usage
import Typings.Export

/-!
# Running a command line

What a command line does to the files, what it prints, and how it ends. Settings of the working directory come after
those of the command line.
-/

namespace Typings.CommandLine

/-- How a run ends: with an exit code, or broken off by a failure that is not reported. -/
inductive Ending
  | exit (code : Nat)
  | broken (cause : ExportError)
  deriving DecidableEq, Repr

/-- What a run comes to. -/
structure Result where
  ending : Ending
  stdout : String := ""
  stderr : String := ""
  journal : Array Event := #[]
  files : Files.FileTree

/-- The settings of the arguments and, after them, those of a configuration. An empty name of the tool counts as none. -/
def Arguments.overriding (a : Arguments) (c : Configuration) : Configuration :=
  { classpath := a.classpath ++ c.classpath
    sourcepath := a.sourcepath ++ c.sourcepath
    javap? := (a.javap?.filter (· ≠ "")).or c.javap? }

/-- The least important events that are shown. -/
def Arguments.level (a : Arguments) : Level :=
  if a.isVerbose then .debug else if a.isQuiet then .warning else .info

/-- The lines of a journal from a level on. -/
def shownLines (level : Level) (journal : Array Event) : List String :=
  journal.toList.filterMap fun e => match e.line? with
    | some (l, line) => if level.rank ≤ l.rank then some line else none
    | none => none

/-- The configuration for a run. -/
def configure (a : Arguments) (files : Files.FileTree) : Action Unit ExportError Configuration := do
  let directory : Files.Path := ⟨.root, files.workingDirectory⟩
  let c ← (Configuration.load files directory).withError .configuration
  let output := Files.Path.ofString (a.output?.getD "")
  Action.report (.started (a.classNames?.getD []) output.text)
  return a.overriding c

/-- How an export ends, with its journal and files. -/
structure Exported where
  error? : Option ExportError := none
  journal : Array Event
  files : Files.FileTree

/-- Exports the classes that the arguments name. -/
def exportBy (a : Arguments) (files : Files.FileTree) (host : Javap.Host) : Exported :=
  match configure a files { state := () } with
  | .error e s => ⟨some e, s.journal, files⟩
  | .ok c s =>
    let client := (ClientPlan.ofConfiguration c).client files host
    let start : Session (Workspace (Source.ClientState Cache)) :=
      { state := ⟨⟨ClientPlan.start, {}⟩, files⟩, journal := s.journal }
    match exportClasses client (.ofString (a.output?.getD "")) (a.classNames?.getD []) start with
    | .ok _ s => ⟨none, s.journal, s.state.files⟩
    | .error e s => ⟨some e, s.journal, s.state.files⟩

/-- How a run ends that exports classes, with the last event. -/
def endingOf : Option ExportError → Ending × List Event
  | none => (.exit 0, [])
  | some e => match e.report? with
    | some reason => (.exit 1, [.failed reason])
    | none => (.broken e, [])

/-- Runs a command line. -/
def run (texts : List String) (files : Files.FileTree) (host : Javap.Host) : Result :=
  match Arguments.ofTexts texts with
  | .error .help => { ending := .exit 0, stdout := textOfLines helpLines, files := files }
  | .error (.misuse cause) => { ending := .exit 2, stderr := textOfLines (misuseLines cause), files := files }
  | .ok a =>
    let exported := exportBy a files host
    let (ending, last) := endingOf exported.error?
    let journal := exported.journal ++ last.toArray
    { ending := ending
      stderr := textOfLines (shownLines a.level journal)
      journal := journal
      files := exported.files }

end Typings.CommandLine
