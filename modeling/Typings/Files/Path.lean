import Typings.Text.Split

/-!
# Paths

A path is taken apart into its parts. Repeated slashes, `.` parts and a slash at the end do not count, while `..` stays.
A path may start at the root; exactly two slashes in front name a root of their own.
-/

namespace Typings.Files

/-- Where a path starts. -/
inductive Anchor
  | here | root | doubleRoot
  deriving DecidableEq, Repr

/-- A path. -/
structure Path where
  anchor : Anchor := .here
  parts : List String := []
  deriving DecidableEq, Repr

namespace Path

/-- The start of a path, given the number of slashes in front. -/
def anchorOf : Nat → Anchor
  | 0 => .here
  | 2 => .doubleRoot
  | _ => .root

/-- Reads a path. -/
def ofString (s : String) : Path :=
  { anchor := anchorOf (s.toList.takeWhile (· = '/')).length
    parts := (Text.splitAt '/' s).filter fun part => part ≠ "" ∧ part ≠ "." }

/-- The path as text. -/
def text (p : Path) : String :=
  match p.anchor, p.parts with
  | .here, [] => "."
  | .here, parts => "/".intercalate parts
  | .root, parts => "/" ++ "/".intercalate parts
  | .doubleRoot, parts => "//" ++ "/".intercalate parts

/-- Continues the path `p` by `q`; a path that starts at a root replaces what precedes it. -/
def join (p q : Path) : Path :=
  if q.anchor = .here then { p with parts := p.parts ++ q.parts } else q

/-- The path without its last part. -/
def parent (p : Path) : Path :=
  { p with parts := p.parts.dropLast }

/-- The last part. -/
def name (p : Path) : String :=
  p.parts.getLastD ""

end Path

end Typings.Files
