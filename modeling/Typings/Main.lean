import Typings.CommandLine.Run

/-!
# The command

Runs the command line in the working directory. The files below it are taken in first, and what the run adds is written
at the end. The tool that lists classes is not started from here, so classes come from Java sources.
-/

namespace Typings.CommandLine

/-- The directories and files of a directory at any depth. Of files that a run reads the contents are taken in. -/
partial def takeIn (location : Files.Location) (found : Array IO.FS.DirEntry) :
    IO (List (Files.Location × Files.Entry)) := do
  let mut entries := []
  for e in found do
    let here := location ++ [e.fileName]
    if ← e.path.isDir then
      entries := (← takeIn here (← e.path.readDir)) ++ (here, .directory) :: entries
    else
      let isRead := e.fileName.endsWith ".java" || e.fileName.endsWith ".toml"
      let bytes ← if isRead then IO.FS.readBinFile e.path else pure ByteArray.empty
      entries := (here, .file bytes) :: entries
  return entries

/-- Writes an entry. -/
def writeEntry (location : Files.Location) (e : Files.Entry) : IO Unit := do
  let path := Files.Path.text ⟨.root, location⟩
  match e with
  | .directory => IO.FS.createDirAll path
  | .file bytes => IO.FS.writeBinFile path bytes

/-- Runs a command line in the working directory. -/
def runHere (texts : List String) : IO UInt32 := do
  let directory ← IO.currentDir
  let here := (Files.Path.ofString directory.toString).parts
  let around := (List.range (here.length + 1)).map fun n => (here.take n, Files.Entry.directory)
  let before : Files.FileTree :=
    { workingDirectory := here, entries := (← takeIn here (← directory.readDir)) ++ around }
  let result := run texts before { obstacle? := some "no tool can be started" }
  for (location, e) in (result.files.entries.take (result.files.entries.length - before.entries.length)).reverse do
    writeEntry location e
  IO.print result.stdout
  IO.eprint result.stderr
  return match result.ending with
    | .exit code => code.toUInt32
    | .broken _ => 1

end Typings.CommandLine

def main (args : List String) : IO UInt32 :=
  Typings.CommandLine.runHere args
