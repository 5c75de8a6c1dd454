import Typings.Proofs.DeclaredTypes
import Typings.Proofs.Descriptors

/-!
# Members of listings

The members of a class are listed by their declarations, each with a line for its descriptor below it. Reading the lines
gives all members back in order, with erased types. Only a method that has the name of its class is taken for a
constructor.
-/

namespace Typings.Javap

open Text (isBlank)

/-! ## What is written -/

/-- A type as a descriptor gives it. -/
inductive ErasedType
  | primitive (p : Java.Primitive)
  | ofClass (name : QualifiedName)
  | array (element : ErasedType)

namespace ErasedType

/-- The name of the type. -/
def name : ErasedType → String
  | primitive p => p.name
  | ofClass name => name.name
  | array element => element.name ++ "[]"

/-- The type in a descriptor. -/
def descriptor : ErasedType → List Char
  | primitive p => [p.letter]
  | ofClass name => 'L' :: name.separated '/' ++ [';']
  | array element => '[' :: element.descriptor

end ErasedType

/-- A word that is a modifier. -/
abbrev ModifierWord := { word : String // word ∈ Java.modifierWords }

/-- What declarations of methods and constructors have in common. -/
structure Signature where
  words : List ModifierWord
  typeParameters : List TypeParameter := []
  parameters : List WrittenType := []
  isVariadic : Bool := false
  thrown : List ClassType := []
  /-- The types of the parameters as the descriptor gives them. -/
  erased : List ErasedType := []

/-- What is listed after a header. -/
inductive Entry
  | field (words : List ModifierWord) (type : WrittenType) (name : Identifier) (erased : ErasedType)
  /-- A method without a result type returns nothing. -/
  | method (signature : Signature) (result? : Option WrittenType) (name : Identifier) (erased? : Option ErasedType)
  | constructor (signature : Signature)
  | staticInitializer
  | blankLine

/-- Texts with a space behind each. -/
def spaced (texts : List (List Char)) : List Char :=
  texts.flatMap (· ++ [' '])

/-- The modifiers as they are written. -/
def modifierTexts (words : List ModifierWord) : List (List Char) :=
  words.map fun word => word.1.toList

/-- The type parameters as they are written, where there are any. -/
def typeParameterTexts : List TypeParameter → List (List Char)
  | [] => []
  | p :: ps => [angled ((p :: ps).map TypeParameter.text)]

namespace Signature

/-- What stands before the result type of a method or the name of a constructor. -/
def lead (s : Signature) : List (List Char) :=
  modifierTexts s.words ++ typeParameterTexts s.typeParameters

/-- What stands after the name. -/
def tail (s : Signature) : List Char :=
  '(' :: (commaSeparated 1 (s.parameters.map WrittenType.text) ++ ((if s.isVariadic then ['.', '.', '.'] else []) ++
    ')' :: clauseText "throws" 1 (s.thrown.map ClassType.text)))

/-- The descriptor, given the one of the result type. -/
def descriptor (s : Signature) (result : List Char) : List Char :=
  '(' :: (s.erased.map ErasedType.descriptor).flatten ++ ')' :: result

/-- The modifiers that are named. -/
def modifiers (s : Signature) : Java.Modifiers :=
  .named (s.words.map (·.1))

/-- The names of the parameter types. -/
def parameterNames (s : Signature) : List String :=
  s.erased.map ErasedType.name

end Signature

/-- The result type as it is written. -/
def resultText : Option WrittenType → List Char
  | none => "void".toList
  | some type => type.text

/-- The result type in a descriptor. -/
def resultDescriptor : Option ErasedType → List Char
  | none => ['V']
  | some type => type.descriptor

/-- The name of the result type. -/
def resultName : Option ErasedType → String
  | none => "void"
  | some type => type.name

/-- The lines of a member. -/
def memberLines (declaration descriptor : List Char) : List (List Char) :=
  [' ' :: ' ' :: (declaration ++ [';']), "    descriptor: ".toList ++ descriptor]

namespace Entry

/-- The lines of the entry in the listing of the given class. -/
def lines (className : QualifiedName) : Entry → List (List Char)
  | field words type name erased =>
    memberLines (spaced (modifierTexts words ++ [type.text]) ++ name.name.toList) erased.descriptor
  | method s result? name erased? =>
    memberLines (spaced (s.lead ++ [resultText result?]) ++ (name.name.toList ++ s.tail))
      (s.descriptor (resultDescriptor erased?))
  | constructor s => memberLines (spaced s.lead ++ (className.text ++ s.tail)) (s.descriptor ['V'])
  | staticInitializer => ["  static {};".toList, "    descriptor: ()V".toList]
  | blankLine => [[]]

/-- The field that is declared. -/
def field? : Entry → Option Java.Field
  | field words _ name erased => some ⟨name.name, erased.name, .named (words.map (·.1))⟩
  | _ => none

/-- The method that is declared. -/
def method? : Entry → Option Java.Method
  | method s _ name erased? => some ⟨name.name, s.parameterNames, resultName erased?, s.modifiers⟩
  | _ => none

/-- The constructor that is declared. -/
def constructor? : Entry → Option Java.Constructor
  | constructor s => some ⟨s.parameterNames, s.modifiers⟩
  | _ => none

/-- The modifiers that are written. -/
def words : Entry → List String
  | field words _ _ _ => words.map (·.1)
  | method s _ _ _ => s.words.map (·.1)
  | constructor s => s.words.map (·.1)
  | _ => []

/-- The entry is a member. -/
def isMember : Entry → Bool
  | staticInitializer => false
  | blankLine => false
  | _ => true

end Entry

/-! ## Erased types -/

namespace ErasedType

/-- The type cut into its element and its array dimensions. -/
def typeName : ErasedType → Java.TypeName
  | primitive p => ⟨p.name, 0⟩
  | ofClass name => ⟨name.name, 0⟩
  | array element => { element.typeName with rank := element.typeName.rank + 1 }

lemma text_typeName (t : ErasedType) : t.typeName.text = t.name := by
  induction t with
  | primitive p => simp [typeName, Java.TypeName.text, Java.TypeName.brackets, name]
  | ofClass n => simp [typeName, Java.TypeName.text, Java.TypeName.brackets, name]
  | array element ih => rw [typeName, Java.TypeName.text_succ, ih, name]

/-- Slashes stand for the dots. -/
lemma dotted_separated (n : QualifiedName) : Java.Descriptor.dotted (n.separated '/') = n.name := by
  have hidentifier : ∀ i : Identifier, (i.name.toList.map fun c => if c = '/' then '.' else c) = i.name.toList := by
    intro i
    have hslash : ('/' : Char) ∉ i.name.toList := fun hmem =>
      absurd (List.all_eq_true.1 i.chars _ hmem) (by decide +kernel)
    refine (List.map_congr_left fun c hc => ?_).trans (List.map_id _)
    rw [if_neg]
    · rfl
    · rintro rfl
      exact hslash hc
  have hmore : ∀ is : List Identifier, ((is.flatMap fun i => '/' :: i.name.toList).map fun c => if c = '/' then '.' else c) =
      is.flatMap fun i => '.' :: i.name.toList := by
    intro is
    rw [List.map_flatMap]
    refine List.flatMap_congr fun i _ => ?_
    rw [List.map_cons, hidentifier, if_pos rfl]
  rw [Java.Descriptor.dotted, QualifiedName.separated, List.map_append, hidentifier, hmore, QualifiedName.name,
    QualifiedName.text, QualifiedName.separated]

lemma separated_chars (n : QualifiedName) : ∀ c ∈ n.separated '/', isBlank c = false ∧ c ≠ ';' := by
  have hidentifier : ∀ i : Identifier, ∀ c ∈ i.name.toList, isBlank c = false ∧ c ≠ ';' := by
    intro i c hc
    obtain ⟨hblank, hmem⟩ := not_nameChar (List.all_eq_true.1 i.isTypeWord.chars c hc)
    simp only [List.mem_cons, not_or] at hmem
    exact ⟨hblank, hmem.2.2.2.2.2.1⟩
  intro c hc
  rcases List.mem_append.1 hc with hc | hc
  · exact hidentifier _ c hc
  · obtain ⟨i, -, hc⟩ := List.mem_flatMap.1 hc
    rcases List.mem_cons.1 hc with rfl | hc
    · decide
    · exact hidentifier i c hc

/-- The type is read from its descriptor. -/
lemma denotes (t : ErasedType) : Java.Descriptor.Denotes t.descriptor t.typeName := by
  induction t with
  | primitive p => exact .of_letter p.letterType?_letter
  | ofClass n =>
    rw [typeName, ← dotted_separated]
    exact .of_className fun hmem => (separated_chars n _ hmem).2 rfl
  | array element ih => exact ih.array

lemma descriptor_solid (t : ErasedType) : ∀ c ∈ t.descriptor, isBlank c = false := by
  induction t with
  | primitive p => cases p <;> simp [descriptor, Java.Primitive.letter] <;> decide
  | ofClass n =>
    intro c hc
    simp only [descriptor, List.cons_append, List.mem_cons, List.mem_append, List.not_mem_nil, or_false] at hc
    rcases hc with rfl | hc | rfl
    · decide
    · exact (separated_chars n c hc).1
    · decide
  | array element ih =>
    rw [descriptor, List.forall_mem_cons]
    exact ⟨by decide, ih⟩

lemma isSolid_descriptor (t : ErasedType) : Text.IsSolid t.descriptor := by
  refine ⟨?_, t.descriptor_solid⟩
  cases t <;> simp [descriptor]

lemma ofString_descriptor (t : ErasedType) :
    Java.Descriptor.ofString (String.ofList t.descriptor) = .ok ⟨none, t.name⟩ := by
  rw [Java.Descriptor.ofString_field t.denotes, text_typeName]

end ErasedType

/-- The type of results that are nothing or of an erased type. -/
def resultTypeName : Option ErasedType → Java.TypeName
  | none => ⟨"void", 0⟩
  | some type => type.typeName

lemma denotes_result (t? : Option ErasedType) : Java.Descriptor.Denotes (resultDescriptor t?) (resultTypeName t?) ∧
    (resultTypeName t?).text = resultName t? ∧ ∀ c ∈ resultDescriptor t?, isBlank c = false := by
  cases t? with
  | none => exact ⟨.of_letter rfl, rfl, List.forall_mem_singleton.2 (by decide)⟩
  | some t => exact ⟨t.denotes, t.text_typeName, t.descriptor_solid⟩

/-- The types are read from the descriptor of a method or constructor. -/
lemma Signature.ofString_descriptor (s : Signature) (t? : Option ErasedType) :
    Java.Descriptor.ofString (String.ofList (s.descriptor (resultDescriptor t?))) =
      .ok ⟨some s.parameterNames, resultName t?⟩ := by
  obtain ⟨hresult, hname, -⟩ := denotes_result t?
  have hparameters : List.Forall₂ Java.Descriptor.Denotes (s.erased.map ErasedType.descriptor)
      (s.erased.map ErasedType.typeName) := by
    rw [List.forall₂_map_left_iff, List.forall₂_map_right_iff, List.forall₂_same]
    exact fun t _ => t.denotes
  rw [descriptor, Java.Descriptor.ofString_method hparameters hresult, hname, List.map_map, parameterNames]
  congr 4
  funext t
  exact t.text_typeName

lemma Signature.isSolid_descriptor (s : Signature) (t? : Option ErasedType) :
    Text.IsSolid (s.descriptor (resultDescriptor t?)) := by
  refine ⟨by simp [descriptor], fun c hc => ?_⟩
  simp only [descriptor, List.cons_append, List.mem_cons, List.mem_append, List.mem_flatten, List.mem_map] at hc
  rcases hc with rfl | ⟨_, ⟨t, -, rfl⟩, hc⟩ | rfl | hc
  · decide
  · exact t.descriptor_solid c hc
  · decide
  · exact (denotes_result t?).2.2 c hc

end Typings.Javap
