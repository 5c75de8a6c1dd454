import Typings.Text.Classes

/-!
# Cutting text into parts

Cutting at a separator, at white space and at line ends, on lists of characters, and the same on strings where names and
paths are cut. Joining the parts of `splitAt` with the separator gives the text back.
-/

namespace Typings.Text

/-- The parts between the occurrences of `sep`; there is always at least one. -/
def splitAt (sep : Char) (s : String) : List String :=
  (s.toList.splitOn sep).map String.ofList

/-- The non-empty runs between white space. -/
def words (cs : List Char) : List (List Char) :=
  (cs.splitOnP isBlank).filter (· ≠ [])

/-- The text without white space at its end. -/
def trimEnd (cs : List Char) : List Char :=
  (cs.reverse.dropWhile isBlank).reverse

/-- The text without white space at both ends. -/
def trim (cs : List Char) : List Char :=
  trimEnd (cs.dropWhile isBlank)

/-- The text without white space at both ends. -/
def trimmed (s : String) : String :=
  String.ofList (trim s.toList)

/-- The lines of a text, without their line ends. Text after the last line end is a line if it is not empty. -/
def lines : List Char → List (List Char)
  | [] => []
  | '\r' :: '\n' :: rest => [] :: lines rest
  | c :: rest =>
    if isLineBreak c then [] :: lines rest
    else match lines rest with
      | [] => [[c]]
      | line :: more => (c :: line) :: more

/-- What follows `start`, if the text begins with it. -/
def afterStart? : List Char → List Char → Option (List Char)
  | [], cs => some cs
  | _ :: _, [] => none
  | p :: ps, c :: cs => if p = c then afterStart? ps cs else none

/-- Whether `part` occurs somewhere in the text. -/
def occursIn (part : List Char) : List Char → Bool
  | [] => part.isEmpty
  | c :: cs => (afterStart? part (c :: cs)).isSome || occursIn part cs

end Typings.Text
