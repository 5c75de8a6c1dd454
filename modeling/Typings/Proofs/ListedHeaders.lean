import Typings.Proofs.Generics
import Typings.Proofs.ModifierWords
import Typings.Proofs.WordRuns

/-!
# Headers of listings

A header is written with modifiers, the kind and the name of the class, type parameters and up to three clauses of types
with type arguments. Reading it gives all of this back, unless the words that start clauses occur as runs in the names:
an extended or implemented name with such a run is never recovered.
-/

namespace Typings.Javap

open Text (isBlank isWordChar)

/-! ## What is written -/

/-- A name in a header: not empty, and without white space, commas, angle brackets and braces. -/
def isHeaderName (name : String) : Bool :=
  name.toList ≠ [] && name.toList.all fun c => !isBlank c && c ∉ [',', '<', '>', '{', '}']

/-- Type arguments or type parameters, without the brackets around them: on one line, and with matching brackets. -/
def isArguments (arguments : String) : Bool :=
  isBalanced 0 arguments.toList && Text.isSingleLine arguments.toList

/-- Type arguments or type parameters in their brackets, where there are any. -/
def bracketed : Option String → List Char
  | none => []
  | some arguments => '<' :: arguments.toList ++ ['>']

lemma isArguments_of_none : ∀ arguments ∈ (none : Option String), isArguments arguments = true := by simp

/-- A type that a header names: parts of a name, each of which may carry type arguments. -/
structure NamedType where
  parts : List (String × Option String)
  isName : isHeaderName (String.join (parts.map (·.1))) = true
  isArguments : ∀ part ∈ parts, ∀ arguments ∈ part.2, isArguments arguments = true

namespace NamedType

/-- The name without type arguments. -/
def name (t : NamedType) : String :=
  String.join (t.parts.map (·.1))

/-- The type as it is written. -/
def text (t : NamedType) : List Char :=
  t.parts.flatMap fun part => part.1.toList ++ bracketed part.2

end NamedType

/-- Types with a comma and the given number of spaces between them. -/
def commaSeparated (gap : Nat) (types : List (List Char)) : List Char :=
  (',' :: List.replicate gap ' ').intercalate types

/-- A clause with the given types, where there are any. -/
def clauseText (word : String) (gap : Nat) : List (List Char) → List Char
  | [] => []
  | t :: ts => ' ' :: (word.toList ++ ' ' :: commaSeparated gap (t :: ts))

/-- The output with the given lines. -/
def output (lines : List (List Char)) : String :=
  String.ofList (lines.flatMap (· ++ ['\n']))

/-- The header of a class or interface. -/
structure Header where
  words : List String
  isInterface : Bool
  name : String
  parameters? : Option String := none
  extended : List NamedType := []
  implemented : List NamedType := []
  permitted : List NamedType := []
  /-- The number of spaces after a comma. -/
  gap : Nat := 1
  areModifiers : ∀ word ∈ words, word ∈ Java.modifierWords
  isName : isHeaderName name = true
  areParameters : ∀ parameters ∈ parameters?, isArguments parameters = true
  extends_one : isInterface = false → extended.length ≤ 1
  implements_none : isInterface = true → implemented = []

namespace Header

/-- The word for the kind of the class. -/
def kind (h : Header) : String :=
  if h.isInterface then "interface" else "class"

/-- What stands between the name and the brace. -/
def rest (h : Header) : List Char :=
  bracketed h.parameters? ++
    (clauseText "extends" h.gap (h.extended.map NamedType.text) ++
      (clauseText "implements" h.gap (h.implemented.map NamedType.text) ++
        clauseText "permits" h.gap (h.permitted.map NamedType.text)))

/-- The line of the header. -/
def line (h : Header) : List Char :=
  (h.words.map String.toList).flatMap (· ++ [' ']) ++
    (h.kind.toList ++ ' ' :: (h.name.toList ++ (h.rest ++ [' ', '{'])))

/-- The class that the header declares. -/
def listing (h : Header) : Listing :=
  { name := h.name
    modifiers := .named (h.words ++ if h.isInterface then ["interface", "abstract"] else [])
    isInterface := h.isInterface
    superclass? := if h.isInterface then none else (h.extended.map NamedType.name).head?
    interfaces := if h.isInterface then h.extended.map NamedType.name else h.implemented.map NamedType.name }

/-- The class is read as the header declares it. -/
def Recovered (h : Header) : Prop :=
  Listing.ofOutput (output [h.line, ['}']]) = .ok (some h.listing)

end Header

/-! ## Texts without type arguments -/

/-- A text that does not end in white space. -/
def EndsVisibly (cs : List Char) : Prop :=
  ∀ c ∈ cs.getLast?, isBlank c = false

lemma EndsVisibly.append {cs ds : List Char} (hcs : EndsVisibly cs) (hds : EndsVisibly ds) : EndsVisibly (cs ++ ds) :=
  Text.forall_last_append hcs hds

lemma EndsVisibly.of_solid {cs : List Char} (h : ∀ c ∈ cs, isBlank c = false) : EndsVisibly cs :=
  fun c hc => h c (List.mem_of_getLast? hc)

/-- A piece of a header's line: on one line, with matching brackets, and visible at its end. -/
structure IsPiece (cs : List Char) : Prop where
  isBalanced : isBalanced 0 cs = true
  isSingleLine : Text.isSingleLine cs = true
  ends : EndsVisibly cs

namespace IsPiece

variable {cs ds : List Char}

lemma nil : IsPiece [] :=
  ⟨rfl, rfl, by simp [EndsVisibly]⟩

lemma append (hcs : IsPiece cs) (hds : IsPiece ds) : IsPiece (cs ++ ds) :=
  ⟨isBalanced_append hcs.isBalanced hds.isBalanced, by simp [hcs.isSingleLine, hds.isSingleLine], hcs.ends.append hds.ends⟩

/-- Plain text in front of a piece that is not empty. -/
lemma behind (h : IsPiece cs) (hne : cs ≠ []) {lead : List Char} (hplain : IsPlain lead)
    (hline : Text.isSingleLine lead = true) : IsPiece (lead ++ cs) := by
  refine ⟨isBalanced_append hplain.isBalanced h.isBalanced, by simp [hline, h.isSingleLine], fun c hc => h.ends c ?_⟩
  rwa [List.getLast?_append_of_ne_nil _ hne] at hc

lemma bracketed {arguments? : Option String} (h : ∀ arguments ∈ arguments?, isArguments arguments = true) :
    IsPiece (bracketed arguments?) := by
  cases arguments? with
  | none => exact nil
  | some arguments =>
    have harguments := h arguments rfl
    rw [isArguments, Bool.and_eq_true] at harguments
    refine ⟨isBalanced_arguments harguments.1 rfl, ?_, ?_⟩
    · rw [Javap.bracketed, Text.isSingleLine_append, Text.isSingleLine_cons, harguments.2]
      decide
    · intro c hc
      rw [Javap.bracketed, List.getLast?_concat, Option.mem_some] at hc
      subst hc
      decide

end IsPiece

lemma stripGenerics_bracketed {arguments? : Option String} (h : ∀ arguments ∈ arguments?, isArguments arguments = true) :
    stripGenerics (bracketed arguments?) = [] := by
  cases arguments? with
  | none => rfl
  | some arguments =>
    have harguments := h arguments rfl
    rw [isArguments, Bool.and_eq_true] at harguments
    exact stripGenerics_arguments harguments.1 []

lemma isHeaderName_iff {name : String} : isHeaderName name = true ↔
    name.toList ≠ [] ∧ ∀ c ∈ name.toList, isBlank c = false ∧ c ∉ [',', '<', '>', '{', '}'] := by
  simp [isHeaderName]

/-- Characters of names in headers. -/
lemma IsPiece.of_nameChars {cs : List Char} (h : ∀ c ∈ cs, isBlank c = false ∧ c ∉ [',', '<', '>', '{', '}']) :
    IsPlain cs ∧ IsPiece cs := by
  have hplain : IsPlain cs := fun c hc => by
    have hnot := (h c hc).2
    simp only [List.mem_cons, not_or] at hnot
    exact ⟨hnot.2.1, hnot.2.2.1⟩
  refine ⟨hplain, hplain.isBalanced, ?_, .of_solid fun c hc => (h c hc).1⟩
  by_cases hne : cs = []
  · subst hne
    rfl
  · exact Text.IsSolid.isSingleLine ⟨hne, fun c hc => (h c hc).1⟩

namespace NamedType

variable (t : NamedType)

lemma nameChars : ∀ part ∈ t.parts, ∀ c ∈ part.1.toList, isBlank c = false ∧ c ∉ [',', '<', '>', '{', '}'] := by
  intro part hpart c hc
  refine (isHeaderName_iff.1 t.isName).2 c ?_
  rw [String.toList_join, List.mem_flatMap]
  exact ⟨part.1, List.mem_map_of_mem hpart, hc⟩

lemma isPiece_text : IsPiece t.text ∧ stripGenerics t.text = t.name.toList := by
  have hparts : ∀ parts : List (String × Option String), parts ⊆ t.parts →
      IsPiece (parts.flatMap fun part => part.1.toList ++ bracketed part.2) ∧
        stripGenerics (parts.flatMap fun part => part.1.toList ++ bracketed part.2) =
          (String.join (parts.map (·.1))).toList := by
    intro parts hsub
    induction parts with
    | nil => exact ⟨.nil, rfl⟩
    | cons part parts ih =>
      obtain ⟨hpiece, hstrip⟩ := ih fun other hother => hsub (List.mem_cons_of_mem _ hother)
      obtain ⟨hplain, hname⟩ := IsPiece.of_nameChars (t.nameChars part (hsub List.mem_cons_self))
      have harguments := t.isArguments part (hsub List.mem_cons_self)
      have hbracketed := IsPiece.bracketed harguments
      rw [List.flatMap_cons]
      refine ⟨(hname.append hbracketed).append hpiece, ?_⟩
      rw [stripGenerics_append (hname.append hbracketed).isBalanced, stripGenerics_append hname.isBalanced,
        stripGenerics_bracketed harguments, hplain.stripGenerics, hstrip, List.append_nil]
      simp
  exact hparts t.parts (List.Subset.refl _)

lemma text_ne_nil : t.text ≠ [] := by
  intro hnil
  have hstrip := t.isPiece_text.2
  rw [hnil] at hstrip
  exact (isHeaderName_iff.1 t.isName).1 hstrip.symm

end NamedType

section Clauses

variable {gap : Nat} {ts : List NamedType}

lemma plain_comma (gap : Nat) : IsPlain (',' :: List.replicate gap ' ') ∧
    Text.isSingleLine (',' :: List.replicate gap ' ') = true := by
  constructor
  · intro c hc
    rcases List.mem_cons.1 hc with rfl | hc
    · decide
    · rw [List.eq_of_mem_replicate hc]
      decide
  · rw [Text.isSingleLine_cons, Text.isSingleLine, List.all_replicate]
    by_cases h : gap = 0 <;> simp [h] <;> decide

lemma commaSeparated_cons_cons (gap : Nat) (t u : List Char) (us : List (List Char)) :
    commaSeparated gap (t :: u :: us) = t ++ (',' :: List.replicate gap ' ' ++ commaSeparated gap (u :: us)) := by
  rw [commaSeparated, List.intercalate_cons_cons, List.append_assoc]
  rfl

lemma commaSeparated_ne_nil (gap : Nat) {t : List Char} (ht : t ≠ []) (us : List (List Char)) :
    commaSeparated gap (t :: us) ≠ [] := by
  cases us with
  | nil => simpa [commaSeparated] using ht
  | cons u us => simp [commaSeparated_cons_cons]

/-- Types between commas, and what is left of them without type arguments. -/
lemma isPiece_commaSeparated (gap : Nat) (ts : List NamedType) :
    IsPiece (commaSeparated gap (ts.map NamedType.text)) ∧
      stripGenerics (commaSeparated gap (ts.map NamedType.text)) = commaSeparated gap ((ts.map NamedType.name).map String.toList) := by
  induction ts with
  | nil => exact ⟨.nil, rfl⟩
  | cons t ts ih =>
    obtain ⟨hpiece, hstrip⟩ := t.isPiece_text
    cases ts with
    | nil => simpa [commaSeparated] using And.intro hpiece hstrip
    | cons u us =>
      obtain ⟨hcomma, hline⟩ := plain_comma gap
      simp only [List.map_cons, commaSeparated_cons_cons] at ih ⊢
      refine ⟨hpiece.append (ih.1.behind (commaSeparated_ne_nil gap u.text_ne_nil _) hcomma hline), ?_⟩
      rw [stripGenerics_append hpiece.isBalanced, stripGenerics_append hcomma.isBalanced, hstrip, hcomma.stripGenerics, ih.2]

lemma isPiece_clauseText {word : String} (hword : word ∈ clauseWords) (gap : Nat) (ts : List NamedType) :
    IsPiece (clauseText word gap (ts.map NamedType.text)) ∧
      stripGenerics (clauseText word gap (ts.map NamedType.text)) = clauseText word gap ((ts.map NamedType.name).map String.toList) := by
  cases ts with
  | nil => exact ⟨.nil, rfl⟩
  | cons t ts =>
    have hplain : ∀ word ∈ clauseWords, IsPlain (' ' :: (word.toList ++ [' '])) ∧
        Text.isSingleLine (' ' :: (word.toList ++ [' '])) = true := by decide +kernel
    obtain ⟨hlead, hline⟩ := hplain word hword
    obtain ⟨hpiece, hstrip⟩ := isPiece_commaSeparated gap (t :: ts)
    have happend : ∀ u us, clauseText word gap (u :: us) = ' ' :: (word.toList ++ [' ']) ++ commaSeparated gap (u :: us) := by
      simp [clauseText]
    simp only [List.map_cons, happend] at hpiece hstrip ⊢
    refine ⟨hpiece.behind (commaSeparated_ne_nil gap t.text_ne_nil _) hlead hline, ?_⟩
    rw [stripGenerics_append hlead.isBalanced, hlead.stripGenerics, hstrip]

end Clauses

lemma Header.isPiece_rest (h : Header) :
    IsPiece h.rest ∧ stripGenerics h.rest =
      clauseText "extends" h.gap ((h.extended.map NamedType.name).map String.toList) ++
        (clauseText "implements" h.gap ((h.implemented.map NamedType.name).map String.toList) ++
          clauseText "permits" h.gap ((h.permitted.map NamedType.name).map String.toList)) := by
  have hparameters := IsPiece.bracketed h.areParameters
  obtain ⟨hextends, hextendsStrip⟩ := isPiece_clauseText (by decide : "extends" ∈ clauseWords) h.gap h.extended
  obtain ⟨himplements, himplementsStrip⟩ := isPiece_clauseText (by decide : "implements" ∈ clauseWords) h.gap h.implemented
  obtain ⟨hpermits, hpermitsStrip⟩ := isPiece_clauseText (by decide : "permits" ∈ clauseWords) h.gap h.permitted
  refine ⟨hparameters.append (hextends.append (himplements.append hpermits)), ?_⟩
  rw [Header.rest, stripGenerics_append hparameters.isBalanced, stripGenerics_bracketed h.areParameters,
    stripGenerics_append hextends.isBalanced, stripGenerics_append himplements.isBalanced, hextendsStrip,
    himplementsStrip, hpermitsStrip, List.nil_append]

/-! ## Reading the line -/

/-- The first line is the header, and the others are read for members. -/
theorem ofOutput_output {line : List Char} {members : List (List Char)} {l : Listing} (hheader : header? line = some l)
    (hline : Text.isSingleLine line = true) (hmembers : ∀ member ∈ members, Text.isSingleLine member = true) :
    Listing.ofOutput (output (line :: members)) = (readMembers l none members).map some := by
  rw [Listing.ofOutput, output, String.toList_ofList, Text.lines_flatMap (List.forall_mem_cons.2 ⟨hline, hmembers⟩),
    readLines, hheader]

lemma dropWhile_space {cs : List Char} (h : ∀ c ∈ cs.head?, isBlank c = false) : (' ' :: cs).dropWhile isBlank = cs := by
  rw [List.dropWhile_cons_of_pos Text.isBlank_space, Text.dropWhile_of_head h]

lemma isSolid_modifierWord {word : String} (h : word ∈ Java.modifierWords) : Text.IsSolid word.toList := by
  have hall : ∀ word ∈ Java.modifierWords, Text.IsSolid word.toList := by decide +kernel
  exact hall word h

/-- Modifier words are read as such, since none is the word for a kind. -/
lemma readHeader?_modifier {word : String} (hword : word ∈ Java.modifierWords) (seen : List String) {cs : List Char}
    (hcs : ∀ c ∈ cs.head?, isBlank c = false) :
    readHeader? seen (word.toList ++ ' ' :: cs) = readHeader? (seen ++ [word]) cs := by
  have hall : ∀ word ∈ Java.modifierWords, word ∉ kindWords ∧
      word.toList.all (fun c => isWordChar c || c == '-') = true := by decide +kernel
  obtain ⟨hkind, hchars⟩ := hall word hword
  have hsolid := isSolid_modifierWord hword
  obtain ⟨htake, hdrop⟩ := hsolid.first_word cs
  rw [readHeader?, htake, hdrop, String.ofList_toList, if_neg hkind]
  simp [hchars, dropWhile_space hcs, hsolid.ne_nil]

lemma head_modifiers {words : List String} (hwords : ∀ word ∈ words, word ∈ Java.modifierWords) {cs : List Char}
    (hcs : ∀ c ∈ cs.head?, isBlank c = false) :
    ∀ c ∈ ((words.map String.toList).flatMap (· ++ [' ']) ++ cs).head?, isBlank c = false := by
  cases words with
  | nil => simpa using hcs
  | cons word words =>
    rw [List.map_cons, List.flatMap_cons, List.append_assoc, List.append_assoc]
    exact (isSolid_modifierWord (hwords word List.mem_cons_self)).head_append _

lemma readHeader?_modifiers {words : List String} (hwords : ∀ word ∈ words, word ∈ Java.modifierWords)
    (seen : List String) {cs : List Char} (hcs : ∀ c ∈ cs.head?, isBlank c = false) :
    readHeader? seen ((words.map String.toList).flatMap (· ++ [' ']) ++ cs) = readHeader? (seen ++ words) cs := by
  induction words generalizing seen with
  | nil => simp
  | cons word words ih =>
    obtain ⟨hword, hwords⟩ := List.forall_mem_cons.1 hwords
    rw [List.map_cons, List.flatMap_cons, List.append_assoc, List.append_assoc, List.singleton_append,
      readHeader?_modifier hword seen (head_modifiers hwords hcs), ih hwords, List.append_assoc, List.singleton_append]

/-- The name is what stands before type parameters, a space or the brace. -/
lemma nameAndRest?_header {name : String} (hname : isHeaderName name = true) {rest : List Char}
    (hhead : ∀ c ∈ rest.head?, c = '<' ∨ c = ' ') (hends : EndsVisibly rest) :
    nameAndRest? (name.toList ++ (rest ++ [' ', '{'])) = some (name.toList, rest) := by
  obtain ⟨hne, hchars⟩ := isHeaderName_iff.1 hname
  have hname' : ∀ c ∈ name.toList, (!isBlank c && c != '<' && c != '{') = true := by
    intro c hc
    obtain ⟨hblank, hmem⟩ := hchars c hc
    simp only [List.mem_cons, not_or] at hmem
    simp [hblank, hmem]
  have hstop : ∀ c ∈ (rest ++ [' ', '{']).head?, (!isBlank c && c != '<' && c != '{') = false := by
    intro c hc
    rcases Text.forall_head_append hhead (by simp) c hc with rfl | rfl <;> decide
  obtain ⟨htake, hdrop⟩ := Text.takeWhile_dropWhile_append hname' hstop
  have hreverse : (rest ++ [' ', '{']).reverse = '{' :: ' ' :: rest.reverse := by simp
  have htrim : Text.trimEnd (' ' :: rest.reverse).reverse = rest := by
    rw [List.reverse_cons, List.reverse_reverse]
    exact Text.trimEnd_append hends (List.forall_mem_singleton.2 Text.isBlank_space)
  obtain ⟨c, cs, hcons⟩ := List.exists_cons_of_ne_nil hne
  simp only [nameAndRest?, htake, hdrop, hreverse]
  rw [hcons]
  simp only [htrim]

namespace Header

variable (h : Header)

/-- The name is followed by type parameters or a space. -/
lemma head_rest : ∀ c ∈ h.rest.head?, c = '<' ∨ c = ' ' := by
  have hclause : ∀ (word : String) (types : List (List Char)), ∀ c ∈ (clauseText word h.gap types).head?, c = '<' ∨ c = ' ' := by
    intro word types
    cases types <;> simp [clauseText]
  have hbracketed : ∀ c ∈ (bracketed h.parameters?).head?, c = '<' ∨ c = ' ' := by
    cases h.parameters? <;> simp [bracketed]
  exact Text.forall_head_append hbracketed
    (Text.forall_head_append (hclause _ _) (Text.forall_head_append (hclause _ _) (hclause _ _)))

lemma kind_mem : h.kind ∈ ["class", "interface"] := by
  rw [kind]
  split <;> simp

lemma isSolid_kind : Text.IsSolid h.kind.toList := by
  have hall : ∀ kind ∈ ["class", "interface"], Text.IsSolid kind.toList := by decide +kernel
  exact hall h.kind h.kind_mem

lemma isSolid_name : Text.IsSolid h.name.toList :=
  have hname := isHeaderName_iff.1 h.isName
  ⟨hname.1, fun c hc => (hname.2 c hc).1⟩

/-- The name and what follows it, after the modifiers. -/
lemma readHeader?_kind (seen : List String) :
    readHeader? seen (h.kind.toList ++ ' ' :: (h.name.toList ++ (h.rest ++ [' ', '{']))) =
      some (.ofHeader seen h.kind h.name.toList h.rest) := by
  have hkind : ∀ kind ∈ ["class", "interface"], kind ∈ kindWords := by decide
  obtain ⟨htake, hdrop⟩ := h.isSolid_kind.first_word (h.name.toList ++ (h.rest ++ [' ', '{']))
  rw [readHeader?, htake, hdrop, String.ofList_toList, if_pos (hkind h.kind h.kind_mem),
    dropWhile_space (h.isSolid_name.head_append _), nameAndRest?_header h.isName h.head_rest h.isPiece_rest.1.ends]

/-- A header line is read word by word. -/
theorem header?_line : header? h.line = some (.ofHeader h.words h.kind h.name.toList h.rest) := by
  have hhead := h.isSolid_kind.head_append (' ' :: (h.name.toList ++ (h.rest ++ [' ', '{'])))
  have hlast : ∀ c ∈ h.line.getLast?, isBlank c = false := by
    have hbrace : h.line.getLast? = some '{' := by simp [line, List.getLast?_cons]
    simp only [hbrace, Option.mem_some, forall_eq']
    decide
  have hne : h.line ≠ [] := by simp [line]
  have htrim : Text.trim h.line = h.line := by
    simpa using Text.trim_append hne (head_modifiers h.areModifiers hhead) hlast (List.forall_mem_nil _) (List.forall_mem_nil _)
  rw [header?, htrim, line, readHeader?_modifiers h.areModifiers [] hhead, readHeader?_kind, List.nil_append]

lemma isSingleLine_line : Text.isSingleLine h.line = true := by
  have hwords : Text.isSingleLine ((h.words.map String.toList).flatMap (· ++ [' '])) = true := by
    refine List.all_eq_true.2 fun c hc => ?_
    simp only [List.mem_flatMap, List.mem_map, exists_exists_and_eq_and] at hc
    obtain ⟨word, hword, hc⟩ := hc
    have hline : Text.isSingleLine (word.toList ++ [' ']) = true := by
      rw [Text.isSingleLine_append, (isSolid_modifierWord (h.areModifiers word hword)).isSingleLine]
      decide
    exact List.all_eq_true.1 hline c hc
  have hspace : Text.isLineBreak ' ' = false := by decide
  have hend : Text.isSingleLine [' ', '{'] = true := by decide
  simp only [line, Text.isSingleLine_append, Text.isSingleLine_cons, hwords, h.isSolid_kind.isSingleLine,
    h.isSolid_name.isSingleLine, h.isPiece_rest.1.isSingleLine, hspace, hend, Bool.not_false, Bool.and_self]

/-- The class is recovered when the clauses are read as they were written. -/
theorem recovered_iff : h.Recovered ↔ Listing.ofHeader h.words h.kind h.name.toList h.rest = h.listing := by
  have hclose : ∀ l, readMembers l none [['}']] = .ok l := fun l => rfl
  rw [Recovered, ofOutput_output h.header?_line h.isSingleLine_line (by decide), hclose]
  simp [Except.map]

end Header

end Typings.Javap
