import Typings.Proofs.ListedHeaders
import Typings.Source.Token

/-!
# Types in declarations

A declaration writes types with their type arguments. Without these a type is a single word: the name of a class or a
primitive and brackets for arrays, and no modifier.
-/

namespace Typings.Javap

open Text (isBlank isIdentifierPart)

/-! ## Names -/

/-- A legal identifier, without characters that the language ignores in identifiers. -/
def isIdentifier (s : String) : Bool :=
  s.toList.head?.any Text.isIdentifierStart && s.toList.all isIdentifierPart &&
    (Source.Token.ofWord s).kind = .identifier

/-- A legal identifier. -/
structure Identifier where
  name : String
  isLegal : isIdentifier name = true

/-- Identifiers with dots between them. -/
structure QualifiedName where
  first : Identifier
  more : List Identifier := []

/-- The identifiers with a separator between them. -/
def QualifiedName.separated (separator : Char) (n : QualifiedName) : List Char :=
  n.first.name.toList ++ n.more.flatMap fun i => separator :: i.name.toList

/-- The name as it is written. -/
def QualifiedName.text (n : QualifiedName) : List Char :=
  n.separated '.'

/-- The name of a class. -/
def QualifiedName.name (n : QualifiedName) : String :=
  String.ofList n.text

/-! ## Types -/

mutual

/-- A class with type arguments; those of an inner class follow its name. -/
inductive ClassType
  | named (name : QualifiedName) (arguments : List TypeArgument)
  | inner (outer : ClassType) (name : Identifier) (arguments : List TypeArgument)

/-- A type in a declaration. -/
inductive WrittenType
  | primitive (p : Java.Primitive)
  | ofClass (type : ClassType)
  | array (element : WrittenType)

/-- A type argument. -/
inductive TypeArgument
  | any
  | exactly (type : WrittenType)
  | extends (bound : WrittenType)
  | super (bound : WrittenType)

end

/-- A wildcard with its bound. -/
def wildcard (word : String) (bound : List Char) : List Char :=
  '?' :: ' ' :: (word.toList ++ ' ' :: bound)

/-- Type arguments or type parameters in brackets, where there are any. -/
def angled : List (List Char) → List Char
  | [] => []
  | text :: texts => '<' :: commaSeparated 1 (text :: texts) ++ ['>']

mutual

/-- The type as it is written. -/
def ClassType.text : ClassType → List Char
  | .named name arguments => name.text ++ angled (argumentTexts arguments)
  | .inner outer name arguments => outer.text ++ ('.' :: name.name.toList ++ angled (argumentTexts arguments))

/-- The type as it is written. -/
def WrittenType.text : WrittenType → List Char
  | .primitive p => p.name.toList
  | .ofClass type => type.text
  | .array element => element.text ++ ['[', ']']

/-- The type argument as it is written. -/
def TypeArgument.text : TypeArgument → List Char
  | .any => ['?']
  | .exactly type => type.text
  | .extends bound => wildcard "extends" bound.text
  | .super bound => wildcard "super" bound.text

/-- The texts of type arguments. -/
def argumentTexts : List TypeArgument → List (List Char)
  | [] => []
  | argument :: arguments => argument.text :: argumentTexts arguments

end

/-- A type parameter with its bounds. -/
structure TypeParameter where
  name : Identifier
  bounds : List ClassType := []

/-- The type parameter as it is written. -/
def TypeParameter.text (p : TypeParameter) : List Char :=
  p.name.name.toList ++
    match p.bounds with
    | [] => []
    | bounds => " extends ".toList ++ " & ".toList.intercalate (bounds.map ClassType.text)

/-! ## Words -/

/-- A character of a type without type arguments. -/
def isNameChar (c : Char) : Bool :=
  isIdentifierPart c || c ∈ ['.', '[', ']']

/-- A character of a type. -/
def isTypeChar (c : Char) : Bool :=
  isNameChar c || c ∈ ['<', '>', ',', ' ', '?', '&']

lemma not_nameChar {c : Char} (h : isNameChar c = true) :
    isBlank c = false ∧ c ∉ ['<', '>', '(', ')', '{', ';', ':'] := by
  have hothers : ['<', '>', '(', ')', '{', ';', ':'].all (fun c => !isNameChar c) = true := by decide +kernel
  have hends : ['.', '[', ']'].all (fun c => !isBlank c) = true := by decide
  simp only [List.all_eq_true, Bool.not_eq_true'] at hothers hends
  refine ⟨?_, fun hmem => by simp [hothers c hmem] at h⟩
  rw [isNameChar, Bool.or_eq_true, decide_eq_true_eq] at h
  exact h.elim (fun h => Text.not_blank (.inr h)) (hends c)

lemma isPlain_of_nameChars {cs : List Char} (h : cs.all isNameChar = true) : IsPlain cs := by
  intro c hc
  have hnot := (not_nameChar (List.all_eq_true.1 h c hc)).2
  simp only [List.mem_cons, not_or] at hnot
  exact ⟨hnot.1, hnot.2.1⟩

/-- A word in a declaration that is no modifier: it starts with a word of its own, which a dot or a bracket ends. -/
structure IsTypeWord (cs : List Char) : Prop where
  chars : cs.all isNameChar = true
  starts : ∃ word tail, cs = word ++ tail ∧ word ≠ [] ∧ Java.Modifier.ofKeyword? (String.ofList word) = none ∧
    ∀ c ∈ tail.head?, c ∈ ['.', '[']

namespace IsTypeWord

variable {cs ds : List Char}

lemma isSolid (h : IsTypeWord cs) : Text.IsSolid cs := by
  obtain ⟨word, tail, rfl, hne, -⟩ := h.starts
  exact ⟨by simp [hne], fun c hc => (not_nameChar (List.all_eq_true.1 h.chars c hc)).1⟩

lemma isPlain (h : IsTypeWord cs) : IsPlain cs :=
  isPlain_of_nameChars h.chars

/-- No modifier has a dot or a bracket. -/
lemma noKeyword (h : IsTypeWord cs) : Java.Modifier.ofKeyword? (String.ofList cs) = none := by
  obtain ⟨word, tail, rfl, -, hword, htail⟩ := h.starts
  cases tail with
  | nil => rwa [List.append_nil]
  | cons c tail =>
    have hmodifiers : ∀ m : Java.Modifier, ['.', '['].all (fun c => c ∉ m.keyword.toList) = true := by
      intro m
      cases m <;> decide
    simp only [List.all_eq_true, decide_eq_true_eq] at hmodifiers
    rw [Option.eq_none_iff_forall_ne_some]
    intro m hm
    refine hmodifiers m c (htail c rfl) ?_
    rw [Java.Modifier.ofKeyword?_eq_some.1 hm]
    simp

lemma append (h : IsTypeWord cs) (hchars : ds.all isNameChar = true) (hhead : ∀ c ∈ ds.head?, c ∈ ['.', '[']) :
    IsTypeWord (cs ++ ds) := by
  have hall : (cs ++ ds).all isNameChar = true := by rw [List.all_append, h.chars, hchars, Bool.and_self]
  obtain ⟨word, tail, rfl, hne, hword, htail⟩ := h.starts
  exact ⟨hall, word, tail ++ ds, List.append_assoc .., hne, hword, Text.forall_head_append htail hhead⟩

end IsTypeWord

namespace Identifier

variable (i : Identifier)

lemma chars : i.name.toList.all isIdentifierPart = true := by
  have h := i.isLegal
  rw [isIdentifier, Bool.and_eq_true, Bool.and_eq_true] at h
  exact h.1.2

lemma ne_nil : i.name.toList ≠ [] := by
  intro hnil
  have h := i.isLegal
  simp [isIdentifier, hnil] at h

/-- Modifiers are reserved words. -/
lemma noKeyword : Java.Modifier.ofKeyword? i.name = none := by
  have hreserved : ∀ m : Java.Modifier, (Source.Token.ofWord m.keyword).kind ≠ .identifier := by
    intro m
    cases m <;> decide
  rw [Option.eq_none_iff_forall_ne_some]
  intro m hm
  have h := i.isLegal
  rw [isIdentifier, Bool.and_eq_true, decide_eq_true_eq, ← Java.Modifier.ofKeyword?_eq_some.1 hm] at h
  exact hreserved m h.2

lemma isTypeWord : IsTypeWord i.name.toList where
  chars := by
    have h := i.chars
    simp only [List.all_eq_true, isNameChar, Bool.or_eq_true] at h ⊢
    exact fun c hc => .inl (h c hc)
  starts := ⟨i.name.toList, [], by simp, i.ne_nil, by simpa using i.noKeyword, by simp⟩

end Identifier

lemma QualifiedName.isTypeWord (n : QualifiedName) : IsTypeWord n.text := by
  apply n.first.isTypeWord.append
  · refine List.all_eq_true.2 fun c hc => ?_
    obtain ⟨i, -, hc⟩ := List.mem_flatMap.1 hc
    rcases List.mem_cons.1 hc with rfl | hc
    · decide +kernel
    · exact List.all_eq_true.1 i.isTypeWord.chars c hc
  · cases n.more <;> simp

/-! ## Texts of types -/

/-- The text of a type or type argument: its brackets match. -/
structure IsTypeText (cs : List Char) : Prop where
  isBalanced : isBalanced 0 cs = true
  chars : cs.all isTypeChar = true

namespace IsTypeText

variable {cs ds : List Char}

lemma append (hcs : IsTypeText cs) (hds : IsTypeText ds) : IsTypeText (cs ++ ds) :=
  ⟨isBalanced_append hcs.isBalanced hds.isBalanced, by rw [List.all_append, hcs.chars, hds.chars, Bool.and_self]⟩

lemma of_nameChars (h : cs.all isNameChar = true) : IsTypeText cs := by
  refine ⟨(isPlain_of_nameChars h).isBalanced, ?_⟩
  simp only [List.all_eq_true, isTypeChar, Bool.or_eq_true] at h ⊢
  exact fun c hc => .inl (h c hc)

lemma intercalate {separator : List Char} (hseparator : IsTypeText separator) {texts : List (List Char)}
    (htexts : ∀ t ∈ texts, IsTypeText t) : IsTypeText (separator.intercalate texts) := by
  induction texts with
  | nil => exact ⟨rfl, rfl⟩
  | cons t texts ih =>
    obtain ⟨ht, htexts⟩ := List.forall_mem_cons.1 htexts
    cases texts with
    | nil => simpa using ht
    | cons u us =>
      rw [List.intercalate_cons_cons]
      exact (ht.append hseparator).append (ih htexts)

lemma commaSeparated {texts : List (List Char)} (htexts : ∀ t ∈ texts, IsTypeText t) :
    IsTypeText (commaSeparated 1 texts) :=
  intercalate ⟨by decide, by decide +kernel⟩ htexts

/-- Type arguments in brackets leave nothing behind. -/
lemma angled {texts : List (List Char)} (htexts : ∀ t ∈ texts, IsTypeText t) :
    IsTypeText (angled texts) ∧ stripGenerics (Javap.angled texts) = [] := by
  cases texts with
  | nil => exact ⟨⟨rfl, rfl⟩, rfl⟩
  | cons t texts =>
    have hinside := commaSeparated htexts
    have hopen : isTypeChar '<' = true := by decide +kernel
    have hclose : [ '>' ].all isTypeChar = true := by decide +kernel
    refine ⟨⟨isBalanced_arguments hinside.isBalanced rfl, ?_⟩, stripGenerics_arguments hinside.isBalanced []⟩
    rw [Javap.angled, List.all_append, List.all_cons, hopen, hinside.chars, hclose]
    rfl

lemma wildcard (h : IsTypeText cs) {word : String} (hword : word ∈ ["extends", "super"]) : IsTypeText (wildcard word cs) := by
  have hwords : ∀ word ∈ ["extends", "super"], Javap.isBalanced 0 ('?' :: ' ' :: (word.toList ++ [' '])) = true ∧
      ('?' :: ' ' :: (word.toList ++ [' '])).all isTypeChar = true := by decide +kernel
  have happend : Javap.wildcard word cs = '?' :: ' ' :: (word.toList ++ [' ']) ++ cs := by simp [Javap.wildcard]
  rw [happend]
  exact append ⟨(hwords word hword).1, (hwords word hword).2⟩ h

end IsTypeText

lemma isTypeWord_primitive (p : Java.Primitive) : IsTypeWord p.name.toList := by
  have hchars : ∀ p : Java.Primitive, p.name.toList.all isNameChar = true ∧ p.name.toList ≠ [] ∧
      Java.Modifier.ofKeyword? p.name = none := by
    intro p
    cases p <;> decide +kernel
  exact ⟨(hchars p).1, p.name.toList, [], by simp, (hchars p).2.1, by simpa using (hchars p).2.2, by simp⟩

/-- A type that reads as one word. -/
structure IsType (cs : List Char) : Prop where
  isTypeText : IsTypeText cs
  isTypeWord : IsTypeWord (stripGenerics cs)

/-- Type arguments may follow a type. -/
lemma IsType.append_arguments {cs : List Char} (h : IsType cs) {texts : List (List Char)} (htexts : ∀ t ∈ texts, IsTypeText t) :
    IsType (cs ++ angled texts) := by
  obtain ⟨hangled, hstrip⟩ := IsTypeText.angled htexts
  refine ⟨h.isTypeText.append hangled, ?_⟩
  rw [stripGenerics_append h.isTypeText.isBalanced, hstrip, List.append_nil]
  exact h.isTypeWord

lemma IsTypeWord.isType {cs : List Char} (h : IsTypeWord cs) : IsType cs :=
  ⟨.of_nameChars h.chars, h.isPlain.stripGenerics.symm ▸ h⟩

/-- Names after a dot and brackets may follow a type. -/
lemma IsType.append_plain {cs ds : List Char} (h : IsType cs) (hchars : ds.all isNameChar = true)
    (hhead : ∀ c ∈ ds.head?, c ∈ ['.', '[']) : IsType (cs ++ ds) := by
  refine ⟨h.isTypeText.append (.of_nameChars hchars), ?_⟩
  rw [stripGenerics_append h.isTypeText.isBalanced, (isPlain_of_nameChars hchars).stripGenerics]
  exact h.isTypeWord.append hchars hhead

mutual

theorem ClassType.isType : ∀ t : ClassType, IsType t.text
  | .named name arguments => by
    rw [ClassType.text]
    exact name.isTypeWord.isType.append_arguments (isTypeText_argumentTexts arguments)
  | .inner outer name arguments => by
    have hdot : isNameChar '.' = true := by decide +kernel
    have hname : ('.' :: name.name.toList).all isNameChar = true := by
      rw [List.all_cons, hdot, name.isTypeWord.chars, Bool.and_self]
    rw [ClassType.text, ← List.append_assoc]
    exact (outer.isType.append_plain hname (by simp)).append_arguments (isTypeText_argumentTexts arguments)

theorem WrittenType.isType : ∀ t : WrittenType, IsType t.text
  | .primitive p => by
    rw [WrittenType.text]
    exact (isTypeWord_primitive p).isType
  | .ofClass type => by
    rw [WrittenType.text]
    exact type.isType
  | .array element => by
    rw [WrittenType.text]
    exact element.isType.append_plain (by decide +kernel) (by simp)

theorem TypeArgument.isTypeText : ∀ a : TypeArgument, IsTypeText a.text
  | .any => by
    rw [TypeArgument.text]
    exact ⟨rfl, by decide +kernel⟩
  | .exactly type => by
    rw [TypeArgument.text]
    exact type.isType.isTypeText
  | .extends bound => by
    rw [TypeArgument.text]
    exact bound.isType.isTypeText.wildcard (by decide)
  | .super bound => by
    rw [TypeArgument.text]
    exact bound.isType.isTypeText.wildcard (by decide)

theorem isTypeText_argumentTexts : ∀ arguments : List TypeArgument, ∀ text ∈ argumentTexts arguments, IsTypeText text
  | [] => by simp [argumentTexts]
  | argument :: arguments => by
    rw [argumentTexts]
    exact List.forall_mem_cons.2 ⟨argument.isTypeText, isTypeText_argumentTexts arguments⟩

end

lemma TypeParameter.isTypeText (p : TypeParameter) : IsTypeText p.text := by
  have hname := IsTypeText.of_nameChars p.name.isTypeWord.chars
  rw [TypeParameter.text]
  cases hbounds : p.bounds with
  | nil => simpa using hname
  | cons bound bounds =>
    have htexts : ∀ text ∈ (bound :: bounds).map ClassType.text, IsTypeText text := by
      intro text htext
      obtain ⟨t, -, rfl⟩ := List.mem_map.1 htext
      exact t.isType.isTypeText
    have hand : IsTypeText " & ".toList := ⟨by decide +kernel, by decide +kernel⟩
    have hextends : IsTypeText " extends ".toList := ⟨by decide +kernel, by decide +kernel⟩
    exact hname.append (hextends.append (hand.intercalate htexts))

end Typings.Javap
