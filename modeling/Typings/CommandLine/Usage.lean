import Typings.CommandLine.Switch

/-!
# Usage texts

What the command line tells its user about itself.
-/

namespace Typings.CommandLine

/-- The name under which the command is called. -/
def commandName : String := "javadecl"

/-- Lines as text, each with its line end. -/
def textOfLines (lines : List String) : String :=
  String.join (lines.map (· ++ "\n"))

/-- How the command is called. -/
def usageLines : List String :=
  ["usage: javadecl [-h] [-cp CLASSPATH] [--sourcepath SOURCEPATH] [--javap JAVAP]",
   "                [-v] [-q]",
   "                output classname [classname ...]"]

/-- What the command does and what its arguments mean. -/
def helpLines : List String :=
  usageLines ++
    ["",
     "Generate TypeScript declarations for Java classes and everything they",
     "reference.",
     "",
     "positional arguments:",
     "  output                Directory to write the generated .ts files to",
     "  classname             The fully qualified class name(s) to convert",
     "",
     "options:",
     "  -h, --help            show this help message and exit",
     "  -cp CLASSPATH, --classpath CLASSPATH",
     "                        Classpath entries to search (may be repeated)",
     "  --sourcepath SOURCEPATH",
     "                        Java source roots to read before falling back to javap",
     "                        (may be repeated)",
     "  --javap JAVAP         Path to the javap executable (default: search PATH)",
     "  -v, --verbose         Enable verbose (debug) output",
     "  -q, --quiet           Only report errors"]

/-- What is printed when a command line is refused. -/
def misuseLines (e : UsageError) : List String :=
  usageLines ++ [commandName ++ ": error: " ++ e.message]

end Typings.CommandLine
