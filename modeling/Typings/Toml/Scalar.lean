import Typings.Toml.Fault
import Typings.Text.Split

/-!
# Numbers, dates and times of TOML

Each function finds the end of a scalar at the front of a text, taking as much as fits.
-/

namespace Typings.Toml

/-- Takes the given number of digits off the text. -/
def digits? : Nat → List Char → Option (Nat × List Char) :=
  let rec go (value : Nat) : Nat → List Char → Option (Nat × List Char)
    | 0, cs => some (value, cs)
    | _ + 1, [] => none
    | n + 1, c :: cs =>
      if Text.isAsciiDigit c then go (value * 10 + (c.toNat - '0'.toNat)) n cs else none
  go 0

/-- Takes two digits with a value in the given range off the text. -/
def twoDigits? (low high : Nat) (cs : List Char) : Option (Nat × List Char) :=
  (digits? 2 cs).filter fun (n, _) => low ≤ n ∧ n ≤ high

/-- Takes one of the given characters off the text. -/
def oneOf? (among : List Char) : List Char → Option (List Char)
  | c :: cs => if c ∈ among then some cs else none
  | [] => none

/-! ## Dates and times -/

/-- Whether a year has a leap day. -/
def isLeapYear (year : Nat) : Bool :=
  year % 4 = 0 && (year % 100 ≠ 0 || year % 400 = 0)

/-- The number of days of a month. -/
def daysInMonth (year month : Nat) : Nat :=
  if month = 2 then (if isLeapYear year then 29 else 28)
  else if month ∈ [4, 6, 9, 11] then 30
  else 31

/-- A date. -/
structure Date where
  year : Nat
  month : Nat
  day : Nat
  deriving DecidableEq, Repr

/-- Whether there is such a day. There is no year zero. -/
def Date.isValid (d : Date) : Bool :=
  1 ≤ d.year && d.day ≤ daysInMonth d.year d.month

/-- Takes a date off the text. -/
def date? (cs : List Char) : Option (Date × List Char) := do
  let (year, cs) ← digits? 4 cs
  let (month, cs) ← twoDigits? 1 12 (← oneOf? ['-'] cs)
  let (day, cs) ← twoDigits? 1 31 (← oneOf? ['-'] cs)
  return (⟨year, month, day⟩, cs)

/-- Takes hours and minutes off the text. -/
def hoursAndMinutes? (cs : List Char) : Option (List Char) := do
  let (_, cs) ← twoDigits? 0 23 cs
  let (_, cs) ← twoDigits? 0 59 (← oneOf? [':'] cs)
  return cs

/-- Takes a time off the text. -/
def time? (cs : List Char) : Option (List Char) := do
  let cs ← hoursAndMinutes? cs
  let (_, cs) ← twoDigits? 0 59 (← oneOf? [':'] cs)
  match cs with
  | '.' :: d :: rest => return if Text.isAsciiDigit d then rest.dropWhile Text.isAsciiDigit else cs
  | _ => return cs

/-- Takes the offset of a time from universal time off the text, if there is one. -/
def afterOffset (cs : List Char) : List Char :=
  match oneOf? ['Z', 'z'] cs with
  | some rest => rest
  | none => ((oneOf? ['+', '-'] cs).bind hoursAndMinutes?).getD cs

/-- Takes a date with or without a time off the text. -/
def dateTime? (cs : List Char) : Option (Date × List Char) := do
  let (date, cs) ← date? cs
  let time := (oneOf? ['T', 't', ' '] cs).bind time?
  return (date, (time.map afterOffset).getD cs)

/-! ## Numbers -/

/-- Skips digits, each of which may follow an underscore. -/
def afterMoreDigits (isDigit : Char → Bool) : List Char → List Char
  | '_' :: c :: cs => if isDigit c then afterMoreDigits isDigit cs else '_' :: c :: cs
  | c :: cs => if isDigit c then afterMoreDigits isDigit cs else c :: cs
  | [] => []

/-- Takes one or more digits off the text. -/
def someDigits? (isDigit : Char → Bool) : List Char → Option (List Char)
  | c :: cs => if isDigit c then some (afterMoreDigits isDigit cs) else none
  | [] => none

/-- Takes a number with a base mark off the text. -/
def based? : List Char → Option (List Char)
  | '0' :: 'x' :: cs => someDigits? Text.isHexDigit cs
  | '0' :: 'b' :: cs => someDigits? (fun c => c = '0' || c = '1') cs
  | '0' :: 'o' :: cs => someDigits? (fun c => '0' ≤ c && c ≤ '7') cs
  | _ => none

/-- Skips a fraction and an exponent, if there are any. -/
def afterFloatPart (cs : List Char) : List Char :=
  let rest := ((oneOf? ['.'] cs).bind (someDigits? Text.isAsciiDigit)).getD cs
  let exponent := (oneOf? ['e', 'E'] rest).bind fun es =>
    someDigits? Text.isAsciiDigit ((oneOf? ['+', '-'] es).getD es)
  exponent.getD rest

/-- Takes a decimal number off the text; tells what follows its integer part and what follows the number. -/
def decimal? (cs : List Char) : Option (List Char × List Char) :=
  let whole? := match (oneOf? ['+', '-'] cs).getD cs with
    | '0' :: rest => some rest
    | rest => someDigits? Text.isAsciiDigit rest
  whole?.map fun rest => (rest, afterFloatPart rest)

/-- The words for numbers that are not finite. -/
def specialNumbers : List String := ["inf", "nan", "-inf", "+inf", "-nan", "+nan"]

/-- Takes such a word off the text. -/
def special? (cs : List Char) : Option (List Char) :=
  specialNumbers.findSome? fun word => Text.afterStart? word.toList cs

/-- The most digits that a decimal integer may have. -/
def digitLimit : Nat := 4300

/-- Finds the end of the date, time or number at the front of the text. -/
def afterScalar (cs : List Char) : Except Cause (List Char) :=
  match dateTime? cs with
  | some (date, rest) => if date.isValid then .ok rest else .error .invalidDate
  | none =>
    match time? cs <|> based? cs with
    | some rest => .ok rest
    | none =>
      match decimal? cs with
      | some (wholeEnd, rest) =>
        let digits := ((cs.take (cs.length - wholeEnd.length)).filter Text.isAsciiDigit).length
        if rest.length = wholeEnd.length ∧ digitLimit < digits then .error .tooManyDigits else .ok rest
      | none => (special? cs).elim (.error .invalidValue) .ok

end Typings.Toml
