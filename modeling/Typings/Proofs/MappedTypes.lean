import Mathlib.Data.List.Basic
import Typings.Conversion.Members

/-!
# Which types are mapped

A type name is mapped if the name inside its brackets is a class name, by the grammar of dotted names: all names with a
meaning of their own lie in that grammar too. What is noted along with a mapped type is at most one class, whose name in
the module is the only one in the type; a type that is not mapped leaves no trace.
-/

namespace Typings.TypeScript

/-! ## Names in types -/

mutual

/-- The names that a type refers to, at any depth. -/
def TypeNode.names : TypeNode → List String
  | .keyword _ => []
  | .null => []
  | .reference name arguments => name :: TypeNode.allNames arguments
  | .array element => element.names
  | .union alternatives => TypeNode.allNames alternatives

/-- The names that several types refer to. -/
def TypeNode.allNames : List TypeNode → List String
  | [] => []
  | t :: ts => t.names ++ TypeNode.allNames ts

end

namespace TypeNode

lemma allNames_eq (ts : List TypeNode) : allNames ts = ts.flatMap names := by
  induction ts with
  | nil => rfl
  | cons t ts ih => rw [allNames, ih, List.flatMap_cons]

@[simp] lemma names_named (name : String) : (named name).names = [name] := by
  simp [named, names, allNames]

@[simp] lemma names_promise (t : TypeNode) : t.promise.names = "Promise" :: t.names := by
  simp [promise, names, allNames]

lemma names_unionOf (ts : List TypeNode) : (unionOf ts).names = ts.flatMap names := by
  unfold unionOf
  split
  · simp
  · rw [names, allNames_eq]

@[simp] lemma names_orNull (allowNull : Bool) (t : TypeNode) : (t.orNull allowNull).names = t.names := by
  cases allowNull
  · rfl
  · simp [orNull, names_unionOf, names]

end TypeNode

end Typings.TypeScript

namespace Typings.Java

/-! ## Brackets -/

namespace TypeName

lemma toList_brackets (rank : Nat) : (brackets rank).toList = (List.replicate rank ['[', ']']).flatten := by
  induction rank with
  | zero => rfl
  | succ rank ih =>
    rw [brackets, List.replicate_succ, String.join_cons, String.toList_append, ← brackets, ih]
    rfl

/-- What is cut off consists of pairs, and no pair is left. -/
lemma cutRank_spec (cs : List Char) :
    cs = (List.replicate (cutRank cs).1 [']', '[']).flatten ++ (cutRank cs).2 ∧ ¬[']', '['] <+: (cutRank cs).2 := by
  fun_induction cutRank cs with
  | case1 rest rank element hcut ih =>
    rw [hcut] at ih
    refine ⟨?_, ih.2⟩
    rw [List.replicate_succ, List.flatten_cons, List.append_assoc, ← ih.1]
    rfl
  | case2 cs hcs =>
    refine ⟨rfl, ?_⟩
    rintro ⟨rest, rfl⟩
    exact hcs rest rfl

lemma text_ofString (s : String) : (ofString s).text = s := by
  have hcut := (cutRank_spec s.toList.reverse).1
  rw [← String.toList_inj, text, ofString, String.toList_append, String.toList_ofList, toList_brackets]
  rw [List.reverse_eq_iff, List.reverse_append, List.reverse_flatten, List.map_replicate, List.reverse_replicate] at hcut
  exact hcut.symm

lemma not_suffix_ofString (s : String) : ¬['[', ']'] <:+ (ofString s).element.toList := by
  have hcut := (cutRank_spec s.toList.reverse).2
  rwa [ofString, String.toList_ofList, ← List.reverse_prefix, List.reverse_reverse]

end TypeName

/-! ## Dotted names -/

/-- Segments with dots between them; each is an ASCII letter, an underscore or a dollar sign, and then word characters and
dollar signs. -/
def IsDottedName (name : String) : Prop :=
  ∃ segments : List (List Char), segments ≠ [] ∧ name.toList = ['.'].intercalate segments ∧
    ∀ s ∈ segments, ∃ c rest, s = c :: rest ∧ (Text.isAsciiLetter c ∨ c = '_' ∨ c = '$') ∧
      ∀ d ∈ rest, Text.isWordChar d ∨ d = '$'

lemma isSegment_iff {s : List Char} :
    isSegment s ↔ ∃ c rest, s = c :: rest ∧ (Text.isAsciiLetter c ∨ c = '_' ∨ c = '$') ∧
      ∀ d ∈ rest, Text.isWordChar d ∨ d = '$' := by
  cases s with
  | nil => simp [isSegment]
  | cons c rest => simp [isSegment, isSegmentStart, or_assoc]

lemma dot_notMem_of_isSegment {s : List Char} (h : isSegment s) : '.' ∉ s := by
  obtain ⟨c, rest, rfl, hc, hrest⟩ := isSegment_iff.1 h
  have hletter : Text.isAsciiLetter '.' = false := by decide
  have hword : Text.isWordChar '.' = false := by decide
  rw [List.mem_cons, not_or]
  constructor
  · rintro rfl
    simp [hletter] at hc
  · intro hin
    have hdot := hrest '.' hin
    simp [hword] at hdot

theorem isClassName_iff {name : String} : isClassName name ↔ IsDottedName name := by
  rw [isClassName, List.all_eq_true]
  constructor
  · intro h
    exact ⟨name.toList.splitOn '.', List.splitOn_ne_nil _ _, (List.intercalate_splitOn _).symm,
      fun s hs => isSegment_iff.1 (h s hs)⟩
  · rintro ⟨segments, hne, hname, hsegments⟩
    have hall : ∀ s ∈ segments, isSegment s = true := fun s hs => isSegment_iff.2 (hsegments s hs)
    rw [hname, List.splitOn_intercalate _ (fun s hs => dot_notMem_of_isSegment (hall s hs)) hne]
    exact hall

end Typings.Java

namespace Typings.Conversion

open TypeScript (TypeNode)

/-! ## The innermost part of a type -/

/-- What stands inside all arrays: an element, or the buffer that takes the place of an array of bytes. -/
inductive Innermost
  | buffer
  | element (e : Element)

/-- The innermost part of a type name and the number of arrays around it. -/
def innermost? (typeName : String) : Option (Innermost × Nat) :=
  let t := Java.TypeName.ofString typeName
  if isByte t.element ∧ 0 < t.rank then some (.buffer, t.rank - 1)
  else (Element.ofName? t.element).map fun e => (.element e, t.rank)

/-- The type of the innermost part. -/
def Innermost.mapped (self : String) (position : Position) (allowNull : Bool) : Innermost → Mapped
  | buffer => Conversion.buffer allowNull
  | element e => mapElement self position allowNull e

/-- A type is mapped by its innermost part, and only that depends on where it stands. -/
theorem mapType_eq (self typeName : String) (position : Position) (allowNull : Bool) :
    mapType self typeName position allowNull =
      match innermost? typeName with
      | none => .error ⟨(Java.TypeName.ofString typeName).element⟩
      | some (inner, depth) => .ok (inArrays allowNull (fun null => inner.mapped self position null) depth) := by
  simp only [mapType, innermost?]
  split
  · rfl
  · cases Element.ofName? (Java.TypeName.ofString typeName).element <;> rfl

/-- What an element name can stand for: a primitive, a wrapper class, or something else if it is neither. -/
theorem ofName?_eq_some {name : String} {e : Element} (h : Element.ofName? name = some e) :
    (∃ p isPrimitive, name = (if isPrimitive then p.name else p.wrapper) ∧ e = .ofPrimitive p isPrimitive) ∨
      (∀ p : Java.Primitive, name ≠ p.name ∧ name ≠ p.wrapper) ∧
        ((name = Java.stringClass ∧ e = .text) ∨ (name ∈ ["void", "java.lang.Void"] ∧ e = .void) ∨
          (name = Java.objectClass ∧ e = .object) ∨ (Java.isClassName name ∧ e = .declared name)) := by
  have hall : ∀ p : Java.Primitive, p ∈ Java.Primitive.all := by
    intro p
    cases p <;> decide
  unfold Element.ofName? at h
  split at h
  · next p hp => exact .inl ⟨p, true, by simpa [eq_comm] using List.find?_some hp, (Option.some.inj h).symm⟩
  · next p _ hp => exact .inl ⟨p, false, by simpa [eq_comm] using List.find?_some hp, (Option.some.inj h).symm⟩
  · next hname hwrapper =>
    rw [Java.Primitive.ofName?, List.find?_eq_none] at hname
    rw [Java.Primitive.ofWrapper?, List.find?_eq_none] at hwrapper
    refine .inr ⟨fun p => ⟨?_, ?_⟩, ?_⟩
    · simpa [eq_comm] using hname p (hall p)
    · simpa [eq_comm] using hwrapper p (hall p)
    · split_ifs at h with hstring hvoid hobject hclass
      · exact .inl ⟨hstring, (Option.some.inj h).symm⟩
      · exact .inr (.inl ⟨by simpa using hvoid, (Option.some.inj h).symm⟩)
      · exact .inr (.inr (.inl ⟨hobject, (Option.some.inj h).symm⟩))
      · exact .inr (.inr (.inr ⟨hclass, (Option.some.inj h).symm⟩))

/-- The elements with a meaning of their own have class names too. -/
lemma isSome_ofName? (name : String) : (Element.ofName? name).isSome = Java.isClassName name := by
  have hprimitives : ∀ p : Java.Primitive, Java.isClassName p.name ∧ Java.isClassName p.wrapper := by
    intro p
    cases p <;> decide +kernel
  have hothers : ∀ known ∈ [Java.stringClass, "void", "java.lang.Void", Java.objectClass], Java.isClassName known := by
    decide +kernel
  rw [Bool.eq_iff_iff, Option.isSome_iff_exists]
  constructor
  · rintro ⟨e, he⟩
    rcases ofName?_eq_some he with ⟨p, isPrimitive, rfl, -⟩ | ⟨-, ⟨rfl, -⟩ | ⟨hvoid, -⟩ | ⟨rfl, -⟩ | ⟨hclass, -⟩⟩
    · split
      · exact (hprimitives p).1
      · exact (hprimitives p).2
    · exact hothers _ (by simp)
    · exact hothers _ (by simp only [List.mem_cons] at hvoid ⊢; tauto)
    · exact hothers _ (by simp)
    · exact hclass
  · intro hclass
    unfold Element.ofName?
    split
    · exact ⟨_, rfl⟩
    · exact ⟨_, rfl⟩
    · split_ifs <;> exact ⟨_, rfl⟩

lemma isSome_innermost? (typeName : String) :
    (innermost? typeName).isSome = Java.isClassName (Java.TypeName.ofString typeName).element := by
  simp only [innermost?]
  split
  · next hbyte =>
    have hnames : ∀ name ∈ ["byte", "java.lang.Byte"], Java.isClassName name := by decide +kernel
    refine (hnames _ ?_).symm
    simpa [isByte] using hbyte.1
  · rw [Option.isSome_map, isSome_ofName?]

/-! ## The class that a type refers to -/

/-- The name of a class in the module of the class `self`. A class has two names in its own module. -/
def shownName (self : String) (position : Position) (name : String) : String :=
  if name = self then Java.simpleName name ++ if position = .parameter then "Class" else "" else Java.flatName name

lemma referenceTo_eq (self name : String) (position : Position) :
    referenceTo self name position = .named (shownName self position name) := by
  simp only [referenceTo, shownName]
  split <;> rfl

/-- The class that the innermost part of a type refers to. Numbers and booleans refer to their wrapper class where an
instance of it may be given. -/
def Innermost.class? (position : Position) : Innermost → Option String
  | element (.scalar wrapper _ _) => if position = .parameter then some wrapper else none
  | element (.declared name) => some name
  | element .text | element .void | element .object | buffer => none

lemma names_scalarTypes {p : Java.Primitive} {types : List TypeNode} (h : scalarTypes? p = some types) :
    types.flatMap TypeNode.names = [] := by
  cases p <;> simp only [scalarTypes?, Option.some.injEq, reduceCtorEq] at h <;> subst h <;> rfl

lemma ofPrimitive_eq_scalar {p : Java.Primitive} {b isPrimitive : Bool} {wrapper : String} {types : List TypeNode}
    (h : Element.ofPrimitive p b = .scalar wrapper isPrimitive types) :
    wrapper = p.wrapper ∧ isPrimitive = b ∧ scalarTypes? p = some types := by
  unfold Element.ofPrimitive at h
  split at h
  · next htypes =>
    cases h
    exact ⟨rfl, rfl, htypes⟩
  · cases h

lemma names_of_ofName {name wrapper : String} {isPrimitive : Bool} {types : List TypeNode}
    (h : Element.ofName? name = some (.scalar wrapper isPrimitive types)) : types.flatMap TypeNode.names = [] := by
  rcases ofName?_eq_some h with ⟨p, b, -, he⟩ | ⟨-, ⟨-, he⟩ | ⟨-, he⟩ | ⟨-, he⟩ | ⟨-, he⟩⟩
  · exact names_scalarTypes (ofPrimitive_eq_scalar he.symm).2.2
  all_goals cases he

/-- The class that is noted is the one whose name stands in the type, and the only name in it. -/
structure Shows (own : String) (position : Position) (class? : Option String) (m : Mapped) : Prop where
  reference : m.reference? = class?
  shown : ∀ className, class? = some className → m.node.names = [shownName own position className]
  others : class? = none → ∀ name ∈ m.node.names, name = "Buffer" ∨ (name = basicTypeName ∧ m.usesBasicType)
  basic : m.usesBasicType → basicTypeName ∈ m.node.names

lemma Shows.of_class {self className : String} {position : Position} {m : Mapped} (hreference : m.reference? = some className)
    (hnames : m.node.names = [shownName self position className]) (hbasic : m.usesBasicType = false) :
    Shows self position (some className) m where
  reference := hreference
  shown other hother := Option.some.inj hother ▸ hnames
  others hnone := by cases hnone
  basic h := by simp [hbasic] at h

lemma Shows.of_names_nil {self : String} {position : Position} {m : Mapped} (hnames : m.node.names = [])
    (hreference : m.reference? = none) (hbasic : m.usesBasicType = false) : Shows self position none m where
  reference := hreference
  shown _ hsome := by cases hsome
  others _ := by simp [hnames]
  basic h := by simp [hbasic] at h

lemma shows_mapElement {self name : String} {e : Element} (h : Element.ofName? name = some e) (position : Position)
    (allowNull : Bool) :
    Shows self position ((Innermost.element e).class? position) (mapElement self position allowNull e) := by
  cases e with
  | scalar wrapper isPrimitive types =>
    have htypes := names_of_ofName h
    have hnulls : (if allowNull && !isPrimitive then [TypeNode.null] else []).flatMap TypeNode.names = [] := by
      cases allowNull <;> cases isPrimitive <;> rfl
    cases position with
    | parameter =>
      refine .of_class rfl ?_ rfl
      simp only [mapElement, TypeNode.names_unionOf, List.flatMap_append, List.flatMap_cons, referenceTo_eq, htypes, hnulls,
        TypeNode.names_named, List.append_nil]
    | value =>
      refine .of_names_nil ?_ rfl rfl
      simp only [mapElement, TypeNode.names_unionOf, List.flatMap_append, htypes, hnulls, List.append_nil]
  | text => exact .of_names_nil (by simp [mapElement, TypeNode.string, TypeNode.names]) rfl rfl
  | void => exact .of_names_nil (by simp [mapElement, TypeNode.void, TypeNode.names]) rfl rfl
  | object => exact ⟨rfl, by simp [Innermost.class?], by simp [mapElement], by simp [mapElement]⟩
  | declared className => exact .of_class rfl (by simp [mapElement, referenceTo_eq]) rfl

lemma Shows.inArrays {self : String} {position : Position} {class? : Option String} {element : Bool → Mapped}
    (h : ∀ allowNull, Shows self position class? (element allowNull)) (allowNull : Bool) (depth : Nat) :
    Shows self position class? (inArrays allowNull element depth) := by
  induction depth generalizing allowNull with
  | zero => exact h allowNull
  | succ depth ih =>
    -- An array notes what its element notes and has the same names.
    have hinner := ih true
    refine ⟨hinner.reference, ?_, ?_, ?_⟩
    · simpa [Conversion.inArrays, TypeNode.names] using hinner.shown
    · simpa [Conversion.inArrays, TypeNode.names] using hinner.others
    · simpa [Conversion.inArrays, TypeNode.names] using hinner.basic

lemma innermost?_eq_some {typeName : String} {inner : Innermost} {depth : Nat}
    (h : innermost? typeName = some (inner, depth)) :
    let t := Java.TypeName.ofString typeName
    (inner = .buffer ∧ isByte t.element ∧ 0 < t.rank) ∨
      ∃ e, inner = .element e ∧ ¬(isByte t.element ∧ 0 < t.rank) ∧ Element.ofName? t.element = some e ∧ depth = t.rank := by
  dsimp only
  simp only [innermost?] at h
  split at h
  · next hbyte =>
    cases h
    exact .inl ⟨rfl, hbyte⟩
  · next hbyte =>
    obtain ⟨e, he, heq⟩ := Option.map_eq_some_iff.1 h
    cases heq
    exact .inr ⟨e, rfl, hbyte, he, rfl⟩

theorem shows_mapped {self typeName : String} {inner : Innermost} {depth : Nat}
    (h : innermost? typeName = some (inner, depth)) (position : Position) (allowNull : Bool) :
    Shows self position (inner.class? position) (inArrays allowNull (fun null => inner.mapped self position null) depth) := by
  refine Shows.inArrays (fun null => ?_) _ _
  rcases innermost?_eq_some h with ⟨rfl, -⟩ | ⟨e, rfl, -, he, -⟩
  · exact ⟨rfl, by simp [Innermost.class?], by simp [Innermost.mapped, buffer], by simp [Innermost.mapped, buffer]⟩
  · exact shows_mapElement he position null

/-- The class that a type name refers to, if any. -/
def referredClass? (typeName : String) (position : Position) : Option String :=
  (innermost? typeName).bind fun (inner, _) => inner.class? position

lemma shows_of_mapType {self typeName : String} {position : Position} {allowNull : Bool} {m : Mapped}
    (h : mapType self typeName position allowNull = .ok m) :
    Shows self position (referredClass? typeName position) m := by
  rw [mapType_eq] at h
  split at h
  · cases h
  · next inner depth hinner =>
    cases h
    rw [referredClass?, hinner]
    exact shows_mapped hinner position allowNull

/-! ## Mapping a type -/

lemma addMapped_all {resolved : List String} {m : Mapped} (r : References) :
    (r.addMapped resolved m).all = (m.reference?.elim r (r.add resolved)).all ∧
      (r.addMapped resolved m).unresolved = (m.reference?.elim r (r.add resolved)).unresolved := by
  cases hm : m.reference? <;> simp [References.addMapped, hm]

/-- A type name is mapped exactly if the name inside its brackets is a dotted name. Then the type does not depend on what
was noted before, and the only class that is noted is the one whose name in the module stands in the type. Otherwise the
error names the part inside the brackets, and nothing is noted. -/
theorem convertType_exact (self typeName : String) (position : Position) (allowNull : Bool) :
    ∃ t : Java.TypeName, t.text = typeName ∧ ¬['[', ']'] <:+ t.element.toList ∧
      (Java.IsDottedName t.element → ∃ (node : TypeNode) (class? : Option String),
        (∀ className, class? = some className → node.names = [shownName self position className]) ∧
        (class? = none → ∀ name ∈ node.names, name ∈ ["Buffer", basicTypeName]) ∧
        ∀ resolved r, ∃ r', convertType ⟨self, resolved⟩ typeName position allowNull r = .ok node r' ∧
          r'.all = (class?.elim r (r.add resolved)).all ∧ r'.unresolved = (class?.elim r (r.add resolved)).unresolved) ∧
      (¬Java.IsDottedName t.element →
        ∀ resolved r, convertType ⟨self, resolved⟩ typeName position allowNull r = .error ⟨t.element⟩ r) := by
  have hmap := mapType_eq self typeName position allowNull
  have haccepted := isSome_innermost? typeName
  refine ⟨.ofString typeName, Java.TypeName.text_ofString _, Java.TypeName.not_suffix_ofString _, fun hname => ?mapped,
    fun hname resolved r => ?unmapped⟩
  case mapped =>
    rw [Java.isClassName_iff.2 hname, Option.isSome_iff_exists] at haccepted
    obtain ⟨⟨inner, depth⟩, hinner⟩ := haccepted
    have hshows : Shows self position _ _ := shows_mapped hinner position allowNull
    rw [hinner] at hmap
    refine ⟨_, inner.class? position, hshows.shown, fun hnone name hname => ?_, fun resolved r => ?_⟩
    · rcases hshows.others hnone name hname with rfl | ⟨rfl, -⟩ <;> simp
    refine ⟨_, by simp only [convertType, hmap]; rfl, ?_⟩
    rw [← hshows.reference]
    exact addMapped_all r
  case unmapped =>
    rw [Bool.eq_false_iff.2 (mt Java.isClassName_iff.1 hname), Option.isSome_eq_false_iff, Option.isNone_iff_eq_none]
      at haccepted
    rw [haccepted] at hmap
    simp only [convertType, hmap]
    rfl

/-- As the type of a parameter, the module's own class does not go by its simple name. -/
theorem ownClass_renamed_parameter :
    ¬∀ (self typeName : String) (position : Position) (allowNull : Bool) (resolved : List String) (r r' : References)
      (node : TypeNode), convertType ⟨self, resolved⟩ typeName position allowNull r = .ok node r' →
        ∀ className ∈ r'.all, className ∉ r.all →
          (if className = self then Java.simpleName self else Java.flatName className) ∈ node.names := by
  intro h
  have hrun : convertType ⟨"p.List", []⟩ "p.List" .parameter true {} =
      .ok (.union [.named "ListClass", .null]) { all := ["p.List"], unresolved := ["p.List"] } := by
    rfl
  have hnames := h _ _ _ _ _ _ _ _ hrun "p.List" (by decide) (by decide)
  revert hnames
  decide +kernel

end Typings.Conversion
