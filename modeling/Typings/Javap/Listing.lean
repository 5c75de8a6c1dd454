import Typings.Java.Class
import Typings.Java.Descriptor

/-!
# Listings

The `javap` tool lists the declaration of a class: a header line that ends in an opening brace, and for each member its
declaration followed by an indented line with its descriptor. Types are taken from the descriptors, which are erased;
names and modifiers from the declarations, whose type arguments are dropped first.
-/

namespace Typings.Javap

/-- Drops what stands in angle brackets, given the number of brackets that are open. A bracket that closes nothing is
dropped too. -/
def dropGenerics : Nat → List Char → List Char
  | _, [] => []
  | depth, c :: cs =>
    if c = '<' then dropGenerics (depth + 1) cs
    else if c = '>' then dropGenerics (depth - 1) cs
    else if depth = 0 then c :: dropGenerics depth cs
    else dropGenerics depth cs

/-- The text without its type arguments. -/
def stripGenerics (cs : List Char) : List Char :=
  dropGenerics 0 cs

/-- A class as listed, without inherited members. -/
structure Listing where
  name : String
  modifiers : Java.Modifiers
  isInterface : Bool
  superclass? : Option String := none
  interfaces : List String := []
  fields : List Java.Field := []
  methods : List Java.Method := []
  constructors : List Java.Constructor := []
  deriving DecidableEq, Repr

/-! ## The header -/

/-- The words that start a clause after the name of a class. -/
def clauseWords : List String := ["extends", "implements", "permits"]

/-- Whether a run of characters starts a clause. -/
def isClauseWord (run : List Char) : Bool :=
  String.ofList run ∈ clauseWords

/-- The clauses in a text that is cut into runs of word characters and of other characters: each starts with its word
and reaches up to the next one. -/
def clauses : List (List Char) → List (String × List Char)
  | [] => []
  | run :: runs =>
    if isClauseWord run then
      (String.ofList run, (runs.takeWhile fun r => !isClauseWord r).flatten) :: clauses runs
    else clauses runs

/-- Cuts a text into maximal runs of word characters and of other characters. -/
def wordRuns (cs : List Char) : List (List Char) :=
  cs.splitBy fun a b => Text.isWordChar a == Text.isWordChar b

/-- The types in a list separated by commas. -/
def typeList (cs : List Char) : List String :=
  ((cs.splitOn ',').map Text.trim |>.filter (· ≠ [])).map String.ofList

/-- The types in the last clause that starts with the given word. -/
def clauseTypes (word : String) (cs : List (String × List Char)) : List String :=
  typeList ((cs.reverse.lookup word).getD [])

/-- The supertypes named after the name of a class: the first extended one, and then the implemented ones followed by
the other extended ones. -/
def heritage (rest : List Char) : Option String × List String :=
  let cs := clauses (wordRuns (stripGenerics rest))
  let extended := clauseTypes "extends" cs
  (extended.head?, clauseTypes "implements" cs ++ extended.tail)

/-- The words that say what kind of class a header declares. -/
def kindWords : List String := ["class", "interface", "enum", "record", "@interface"]

/-- The name of a class and what follows it, up to the brace at the end of the header. -/
def nameAndRest? (cs : List Char) : Option (List Char × List Char) :=
  let inName c := !Text.isBlank c && c != '<' && c != '{'
  match cs.takeWhile inName, (cs.dropWhile inName).reverse with
  | [], _ => none
  | name, '{' :: rest => some (name, Text.trimEnd rest.reverse)
  | _, _ => none

/-- The listing without members that a header line declares. -/
def Listing.ofHeader (words : List String) (kind : String) (name rest : List Char) : Listing :=
  let (first?, others) := heritage rest
  if kind = "interface" ∨ kind = "@interface" then
    { name := String.ofList name
      modifiers := .ofKeywords (words ++ ["interface", "abstract"])
      isInterface := true
      interfaces := first?.toList ++ others }
  else
    { name := String.ofList name
      modifiers := .ofKeywords words
      isInterface := false
      superclass? := first?
      interfaces := others }

/-- Reads a header after the modifier words `seen`. The first word that can be the kind is the kind. -/
def readHeader? (seen : List String) (cs : List Char) : Option Listing :=
  let word := cs.takeWhile fun c => !Text.isBlank c
  let rest := cs.dropWhile fun c => !Text.isBlank c
  let kind? := if String.ofList word ∈ kindWords then nameAndRest? (rest.dropWhile Text.isBlank) else none
  match kind? with
  | some (name, heritage) => some (.ofHeader seen (String.ofList word) name heritage)
  | none =>
    if _h : word ≠ [] ∧ rest ≠ [] then
      if word.all (fun c => Text.isWordChar c || c == '-') then
        readHeader? (seen ++ [String.ofList word]) (rest.dropWhile Text.isBlank)
      else none
    else none
termination_by cs.length
decreasing_by
  change (rest.dropWhile Text.isBlank).length < cs.length
  have h1 := (List.dropWhile_suffix (l := rest) Text.isBlank).length_le
  have h2 : word.length + rest.length = cs.length := by
    rw [← List.length_append, List.takeWhile_append_dropWhile]
  have h3 := List.length_pos_iff.2 _h.1
  omega

/-- Reads a line of a listing as the header of a class. -/
def header? (line : List Char) : Option Listing :=
  readHeader? [] (Text.trim line)

/-! ## The members -/

/-- The descriptor on a line that holds one. -/
def descriptorOf? (line : List Char) : Option (List Char) :=
  if line.head?.any Text.isBlank then
    match Text.afterStart? "descriptor:".toList (line.dropWhile Text.isBlank) with
    | some (c :: rest) =>
      if Text.isBlank c then
        match Text.words rest with
        | [descriptor] => some descriptor
        | _ => none
      else none
    | _ => none
  else none

/-- The declaration on a line that ends in a semicolon, without the semicolon. A line with a brace declares none. -/
def declarationOf? (line : List Char) : Option (List Char) :=
  let text := Text.trim line
  if text.getLast? = some ';' ∧ '{' ∉ text then some text.dropLast else none

/-- Adds the member with the given declaration and descriptor. Members of interfaces are public unless declared
private. -/
def Listing.addMember (l : Listing) (declaration : List Char) (d : Java.Descriptor) : Listing :=
  let declaration := stripGenerics declaration
  let head := if d.parameters.isSome then declaration.takeWhile (· ≠ '(') else declaration
  let tokens := (Text.words head).map String.ofList
  match tokens.getLast? with
  | none => l
  | some name =>
    let declared := Java.Modifiers.ofKeywords tokens.dropLast
    let modifiers := if l.isInterface ∧ "private" ∉ tokens then declared.insert .publicAccess else declared
    match d.parameters with
    | none => { l with fields := l.fields ++ [⟨name, d.type, modifiers⟩] }
    | some parameters =>
      if name = l.name then { l with constructors := l.constructors ++ [⟨parameters, modifiers⟩] }
      else { l with methods := l.methods ++ [⟨name, parameters, d.type, modifiers⟩] }

/-- Reads the lines after the header, where `declaration?` is the declaration that waits for its descriptor. -/
def readMembers (l : Listing) (declaration? : Option (List Char)) :
    List (List Char) → Except Java.DescriptorError Listing
  | [] => .ok l
  | line :: lines =>
    match descriptorOf? line, declaration? with
    | some descriptor, some declaration => do
      let d ← Java.Descriptor.ofString (String.ofList descriptor)
      readMembers (l.addMember declaration d) none lines
    | some _, none => readMembers l none lines
    | none, _ => readMembers l (declarationOf? line) lines

/-- Reads the lines of a listing; without a header there is no class. -/
def readLines : List (List Char) → Except Java.DescriptorError (Option Listing)
  | [] => .ok none
  | line :: lines =>
    match header? line with
    | none => readLines lines
    | some l => (readMembers l none lines).map some

/-- Reads the class in the output of the tool. -/
def Listing.ofOutput (output : String) : Except Java.DescriptorError (Option Listing) :=
  readLines (Text.lines output.toList)

end Typings.Javap
