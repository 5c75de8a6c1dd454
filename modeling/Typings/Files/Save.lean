import Typings.Files.Tree
import Typings.Journal
import Typings.Traversal

/-!
# Saving modules

The module of the class `a.b.C` is the file `a/b/C.ts` below the output directory. Directories are made as needed and
files are overwritten. Modules are written in order up to the first one that cannot be written.
-/

namespace Typings.Files

/-- Why a module cannot be saved: the path of the module, and the path at which the error came up. -/
structure SaveError where
  path : Path
  cause : FileError
  causePath : Path
  deriving DecidableEq, Repr

/-- The text of the error. -/
def SaveError.message (e : SaveError) : String :=
  "Could not write " ++ e.path.text ++ ": " ++ e.cause.message e.causePath.text

/-- A step on a file tree that keeps what it has done when it fails. -/
abbrev FileAction (ε : Type) := EStateM ε FileTree

/-- Replaces the tree, or fails and leaves it. -/
def attempt {ε : Type} (f : FileTree → Except FileError FileTree) (onError : FileError → ε) : FileAction ε Unit :=
  fun t => match f t with
    | .ok t' => .ok () t'
    | .error e => .error (onError e) t

/-- Makes a directory unless it is there; its parent has to exist. -/
def ensureDirectory (p : Path) : FileAction (FileError × Path) Unit := fun t =>
  match t.makeDirectory p with
  | .ok t' => .ok () t'
  | .error .notFound => .error (.notFound, p) t
  | .error .zeroCharacter => .error (.zeroCharacter, p) t
  | .error e => if t.isDirectory p then .ok () t else .error (e, p) t

/-- Makes a directory and, where it is needed for that, the directories on the way to it; their number is given. -/
def ensureDirectories (p : Path) : Nat → FileAction (FileError × Path) Unit
  | 0 => ensureDirectory p
  | depth + 1 => do
    match (← get).makeDirectory p with
    | .error .notFound => do
      ensureDirectories p.parent depth
      ensureDirectory p
    | _ => ensureDirectory p

/-- The file of a class's module. -/
def modulePath (output : Path) (className : String) : Path :=
  let segments := Java.segments className
  (segments.dropLast ++ [segments.getLastD "" ++ ".ts"]).foldl (fun p s => p.join (.ofString s)) output

/-- Writes a module. -/
def saveModule (output : Path) (m : Module) : FileAction SaveError Path := fun t =>
  let path := modulePath output m.name
  match ensureDirectories path.parent path.parent.parts.length t with
  | .error (cause, causePath) t => .error ⟨path, cause, causePath⟩ t
  | .ok () t =>
    match t.write path m.contents.toUTF8 with
    | .error cause => .error ⟨path, cause, path⟩ t
    | .ok t => .ok path t

/-- Writes modules in order and returns their paths. -/
def saveModules (output : Path) (modules : List Module) : FileAction SaveError (List Path) :=
  modules.mapM (saveModule output)

end Typings.Files
