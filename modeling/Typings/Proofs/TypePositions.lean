import Typings.Proofs.MappedTypes

/-!
# Types of parameters and values

A type name is mapped in four ways: for a parameter or another value, with or without null. Arrays are the same in all of
them. A parameter differs only inside all arrays, where an instance of a wrapper class is accepted in front of the other
alternatives and the module's own class goes by its other name. Null is added only outside all arrays.
-/

namespace Typings.TypeScript.TypeNode

/-! ## Alternatives -/

/-- The members of a union; any other type is its own only alternative. -/
def alternatives : TypeNode → List TypeNode
  | .union ts => ts
  | t => [t]

def isNull : TypeNode → Bool
  | .null => true
  | _ => false

/-- A type without other types inside it. -/
def isSimple : TypeNode → Bool
  | .keyword _ | .null | .reference _ [] => true
  | .reference _ (_ :: _) | .array _ | .union _ => false

/-- Changes the alternatives inside all arrays. -/
def atInnermost (f : List TypeNode → List TypeNode) : TypeNode → TypeNode
  | .array element => .array (element.atInnermost f)
  | .union (.array element :: more) => .union (.array (element.atInnermost f) :: more)
  | t => unionOf (f t.alternatives)

/-- How often null is an alternative of the type, of its elements if it is an array, of their elements and so on. -/
def nulls : TypeNode → List Nat
  | .array element => 0 :: element.nulls
  | .union (.array element :: more) => more.countP isNull :: element.nulls
  | t => [t.alternatives.countP isNull]

/-- A reference under another name. -/
def renamed (old new : String) : TypeNode → TypeNode
  | .reference name arguments => .reference (if name = old then new else name) arguments
  | t => t

lemma alternatives_unionOf {ts : List TypeNode} (h : ts.all isSimple) : (unionOf ts).alternatives = ts := by
  unfold unionOf
  split
  · next t =>
    cases t with
    | array element => simp [isSimple] at h
    | union us => simp [isSimple] at h
    | _ => rfl
  · rfl

section Simple

variable {t : TypeNode} (h : t.alternatives.all isSimple)

include h

lemma atInnermost_of_simple (f : List TypeNode → List TypeNode) : t.atInnermost f = unionOf (f t.alternatives) := by
  cases t with
  | array element => simp [alternatives, isSimple] at h
  | union ts =>
    cases ts with
    | nil => rfl
    | cons t ts =>
      cases t with
      | array element => simp [alternatives, isSimple] at h
      | _ => rfl
  | _ => rfl

lemma nulls_of_simple : t.nulls = [t.alternatives.countP isNull] := by
  cases t with
  | array element => simp [alternatives, isSimple] at h
  | union ts =>
    cases ts with
    | nil => rfl
    | cons t ts =>
      cases t with
      | array element => simp [alternatives, isSimple] at h
      | _ => rfl
  | _ => rfl

end Simple

/-! ## Arrays -/

variable (allowNull : Bool) (t : TypeNode)

lemma atInnermost_array (f : List TypeNode → List TypeNode) :
    ((array t).orNull allowNull).atInnermost f = (array (t.atInnermost f)).orNull allowNull := by
  cases allowNull <;> simp [orNull, unionOf, atInnermost]

lemma nulls_array : ((array t).orNull allowNull).nulls = allowNull.toNat :: t.nulls := by
  cases allowNull <;> simp [orNull, unionOf, nulls, isNull]

lemma alternatives_array :
    ((array t).orNull allowNull).alternatives = array t :: if allowNull then [.null] else [] := by
  cases allowNull <;> rfl

end Typings.TypeScript.TypeNode

namespace Typings.Conversion

open TypeScript (TypeNode)

/-! ## The alternatives inside all arrays -/

/-- The primitives whose values are numbers or booleans; characters are text. -/
def scalarPrimitives : List Java.Primitive :=
  [.boolean, .byte, .short, .int, .long, .float, .double]

/-- The numeric or boolean primitive that a name stands for, itself or by its wrapper class. -/
def scalarOf? (name : String) : Option Java.Primitive :=
  scalarPrimitives.find? fun p => name = p.name ∨ name = p.wrapper

/-- The types that are never null: numeric and boolean primitives, and `void` with its wrapper class. -/
def nonNullTypes : List String :=
  scalarPrimitives.map (·.name) ++ ["void", "java.lang.Void"]

/-- What becomes of the alternatives inside all arrays when the type is that of a parameter. A buffer stays as it is. For a
number or boolean, a reference to the wrapper class is put in front. The module's own class goes by the name that ends in
`Class`. -/
def asParameter (self typeName : String) (alternatives : List TypeNode) : List TypeNode :=
  let t := Java.TypeName.ofString typeName
  if isByte t.element ∧ 0 < t.rank then alternatives
  else match scalarOf? t.element with
    | some p => .named (shownName self .parameter p.wrapper) :: alternatives
    | none =>
      if t.element = self then
        alternatives.map (TypeNode.renamed (Java.simpleName self) (Java.simpleName self ++ "Class"))
      else alternatives

/-- The alternatives of the innermost part of a type. -/
def Innermost.alternatives (self : String) (position : Position) (allowNull : Bool) : Innermost → List TypeNode
  | buffer => .named "Buffer" :: nullIf allowNull
  | element (.scalar wrapper isPrimitive types) =>
    (if position = .parameter then [.named (shownName self position wrapper)] else []) ++ types ++
      nullIf (allowNull && !isPrimitive)
  | element .text => .string :: nullIf allowNull
  | element .void => [.void]
  | element .object => .named basicTypeName :: nullIf allowNull
  | element (.declared name) => .named (shownName self position name) :: nullIf allowNull
where
  nullIf (allowNull : Bool) : List TypeNode := if allowNull then [.null] else []

lemma node_mapped (self : String) (position : Position) (allowNull : Bool) (inner : Innermost) :
    (inner.mapped self position allowNull).node = .unionOf (inner.alternatives self position allowNull) := by
  have horNull : ∀ t : TypeNode, t.orNull allowNull = .unionOf (t :: Innermost.alternatives.nullIf allowNull) := by
    intro t
    cases allowNull <;> rfl
  cases inner with
  | buffer => exact horNull _
  | element e =>
    cases e with
    | scalar wrapper isPrimitive types =>
      cases position with
      | parameter =>
        rw [Innermost.mapped, mapElement, referenceTo_eq]
        rfl
      | value => rfl
    | text => exact horNull _
    | void => rfl
    | object => exact horNull _
    | declared name =>
      rw [Innermost.mapped, mapElement, referenceTo_eq]
      exact horNull _

/-! ## Elements by their names -/

lemma scalarTypes?_eq_some {p : Java.Primitive} {types : List TypeNode} (h : scalarTypes? p = some types) :
    types ≠ [] ∧ types.all TypeNode.isSimple ∧ .null ∉ types := by
  cases p <;> cases h <;> simp [TypeNode.number, TypeNode.bigint, TypeNode.boolean, TypeNode.isSimple]

/-- A number or boolean is known by the name of a primitive or of its wrapper class. -/
lemma scalarOf?_of_scalar {name wrapper : String} {isPrimitive : Bool} {types : List TypeNode}
    (h : Element.ofName? name = some (.scalar wrapper isPrimitive types)) :
    ∃ p, scalarOf? name = some p ∧ wrapper = p.wrapper ∧ scalarTypes? p = some types ∧ (isPrimitive ↔ name = p.name) := by
  have hfind : ∀ p b types, Element.ofPrimitive p b = .scalar wrapper isPrimitive types →
      scalarOf? (if b then p.name else p.wrapper) = some p ∧ (b = true ↔ (if b then p.name else p.wrapper) = p.name) := by
    intro p b types he
    cases p with
    | char => cases he
    | _ => cases b <;> decide
  rcases ofName?_eq_some h with ⟨p, b, rfl, he⟩ | ⟨-, ⟨-, he⟩ | ⟨-, he⟩ | ⟨-, he⟩ | ⟨-, he⟩⟩
  · obtain ⟨hwrapper, rfl, htypes⟩ := ofPrimitive_eq_scalar he.symm
    obtain ⟨hscalar, hprimitive⟩ := hfind p _ types he.symm
    exact ⟨p, hscalar, hwrapper, htypes, hprimitive⟩
  all_goals cases he

lemma scalarOf?_eq_none {name : String} {e : Element} (h : Element.ofName? name = some e)
    (hother : ∀ wrapper isPrimitive types, e ≠ .scalar wrapper isPrimitive types) : scalarOf? name = none := by
  rcases ofName?_eq_some h with ⟨p, b, rfl, rfl⟩ | ⟨hneither, -⟩
  · cases p with
    | char => cases b <;> rfl
    | _ => exact absurd rfl (hother _ _ _)
  · rw [scalarOf?, List.find?_eq_none]
    intro p _
    simp [hneither p]

lemma eq_of_declared {name className : String} (h : Element.ofName? name = some (.declared className)) :
    className = name := by
  rcases ofName?_eq_some h with ⟨p, b, -, he⟩ | ⟨-, ⟨-, he⟩ | ⟨-, he⟩ | ⟨-, he⟩ | ⟨-, he⟩⟩
  · cases p <;> cases he
  all_goals cases he
  rfl

lemma eq_of_object {name : String} (h : Element.ofName? name = some .object) : name = Java.objectClass := by
  rcases ofName?_eq_some h with ⟨p, b, -, he⟩ | ⟨-, ⟨-, he⟩ | ⟨-, he⟩ | ⟨hname, -⟩ | ⟨-, he⟩⟩
  · cases p <;> cases he
  · cases he
  · cases he
  · exact hname
  · cases he

def Element.isNonNull : Element → Bool
  | scalar _ isPrimitive _ => isPrimitive
  | void => true
  | text | object | declared _ => false

lemma isNonNull_iff {name : String} {e : Element} (h : Element.ofName? name = some e) :
    e.isNonNull ↔ name ∈ nonNullTypes := by
  constructor
  · intro hnonNull
    cases e with
    | scalar wrapper isPrimitive types =>
      obtain ⟨p, hp, -, -, hprimitive⟩ := scalarOf?_of_scalar h
      rw [hprimitive.1 hnonNull]
      exact List.mem_append_left _ (List.mem_map_of_mem (List.mem_of_find?_eq_some hp))
    | void =>
      rcases ofName?_eq_some h with ⟨p, b, -, he⟩ | ⟨-, ⟨-, he⟩ | ⟨hvoid, -⟩ | ⟨-, he⟩ | ⟨-, he⟩⟩
      · cases p <;> cases he
      · cases he
      · exact List.mem_append_right _ hvoid
      · cases he
      · cases he
    | _ => cases hnonNull
  · intro hmem
    have hall : ∀ known ∈ nonNullTypes, (Element.ofName? known).any Element.isNonNull := by decide +kernel
    simpa [h] using hall name hmem

/-- Values of the innermost part are never null. -/
def Innermost.isNonNull : Innermost → Bool
  | buffer => false
  | element e => e.isNonNull

lemma alternatives_null (self : String) (position : Position) (inner : Innermost) :
    inner.alternatives self position true =
      inner.alternatives self position false ++ if inner.isNonNull then [] else [.null] := by
  cases inner with
  | buffer => rfl
  | element e =>
    cases e with
    | scalar wrapper isPrimitive types =>
      cases isPrimitive <;> simp [Innermost.alternatives, Innermost.alternatives.nullIf, Innermost.isNonNull, Element.isNonNull]
    | _ => rfl

/-! ## Inside all arrays -/

section Innermost

variable {self typeName : String} {inner : Innermost} {depth : Nat} (h : innermost? typeName = some (inner, depth))

include h

lemma isSimple_alternatives (position : Position) (allowNull : Bool) :
    (inner.alternatives self position allowNull).all TypeNode.isSimple := by
  have hnull : ∀ b, (Innermost.alternatives.nullIf b).all TypeNode.isSimple = true := by
    intro b
    cases b <;> rfl
  rcases innermost?_eq_some h with ⟨rfl, -⟩ | ⟨e, rfl, -, he, -⟩
  · simp [Innermost.alternatives, hnull, TypeNode.named, TypeNode.isSimple]
  · cases e with
    | scalar wrapper isPrimitive types =>
      obtain ⟨p, -, -, htypes, -⟩ := scalarOf?_of_scalar he
      have hsimple := (scalarTypes?_eq_some htypes).2.1
      cases position <;> simp [Innermost.alternatives, hnull, hsimple, TypeNode.named, TypeNode.isSimple]
    | _ => simp [Innermost.alternatives, hnull, TypeNode.named, TypeNode.isSimple, TypeNode.string, TypeNode.void]

/-- A parameter's type differs from that of another value by what `asParameter` does. -/
lemma alternatives_parameter (allowNull : Bool) :
    inner.alternatives self .parameter allowNull = asParameter self typeName (inner.alternatives self .value allowNull) := by
  have hnull : ∀ old new b, (Innermost.alternatives.nullIf b).map (TypeNode.renamed old new) =
      Innermost.alternatives.nullIf b := by
    intro old new b
    cases b <;> rfl
  rcases innermost?_eq_some h with ⟨rfl, hbyte⟩ | ⟨e, rfl, hbyte, he, -⟩
  · rw [asParameter, if_pos hbyte]
    rfl
  · rw [asParameter, if_neg hbyte]
    cases e with
    | scalar wrapper isPrimitive types =>
      obtain ⟨p, hp, rfl, -, -⟩ := scalarOf?_of_scalar he
      rw [hp]
      rfl
    | declared className =>
      obtain rfl := eq_of_declared he
      simp only [scalarOf?_eq_none he (by simp), Innermost.alternatives, shownName]
      split
      · next hself => simp [hself, TypeNode.named, TypeNode.renamed, hnull]
      · rfl
    | object =>
      -- The helper type of the runtime is not taken for the module's own class.
      have hbasic : basicTypeName ≠ Java.simpleName Java.objectClass := by decide
      simp only [scalarOf?_eq_none he (by simp), Innermost.alternatives]
      split
      · next hself =>
        rw [← hself, eq_of_object he]
        simp [TypeNode.named, TypeNode.renamed, hbasic, hnull]
      · rfl
    | _ =>
      simp only [scalarOf?_eq_none he (by simp), Innermost.alternatives]
      split <;> simp [TypeNode.string, TypeNode.void, TypeNode.renamed, hnull]

lemma countP_alternatives (allowNull : Bool) :
    (inner.alternatives self .parameter allowNull).countP TypeNode.isNull =
      (inner.alternatives self .value allowNull).countP TypeNode.isNull := by
  cases inner with
  | buffer => rfl
  | element e =>
    cases e with
    | scalar wrapper isPrimitive types => simp [Innermost.alternatives, TypeNode.named, TypeNode.isNull]
    | declared name => simp [Innermost.alternatives, TypeNode.named, TypeNode.isNull]
    | _ => rfl

/-- A parameter has null among its alternatives where another value has it. -/
lemma node_parameter (allowNull : Bool) :
    let node position := (inArrays allowNull (fun null => inner.mapped self position null) depth).node
    node .parameter = (node .value).atInnermost (asParameter self typeName) ∧ (node .parameter).nulls = (node .value).nulls := by
  dsimp only
  generalize depth = d
  induction d generalizing allowNull with
  | zero =>
    have hsimple : ∀ position null, (inner.alternatives self position null).all TypeNode.isSimple :=
      isSimple_alternatives h
    have halternatives := fun position => TypeNode.alternatives_unionOf (hsimple position allowNull)
    simp only [inArrays, node_mapped]
    constructor
    · rw [TypeNode.atInnermost_of_simple (by rw [halternatives]; exact hsimple _ _), halternatives,
        alternatives_parameter h]
    · rw [TypeNode.nulls_of_simple (by rw [halternatives]; exact hsimple _ _),
        TypeNode.nulls_of_simple (by rw [halternatives]; exact hsimple _ _), halternatives, halternatives,
        countP_alternatives h]
  | succ d ih =>
    -- The elements of an array may be null, whatever holds for the array.
    obtain ⟨hnode, hnulls⟩ := ih true
    simp only [inArrays]
    constructor
    · rw [TypeNode.atInnermost_array, hnode]
    · rw [TypeNode.nulls_array, TypeNode.nulls_array, hnulls]

/-! ## Null outside all arrays -/

lemma mem_nonNullTypes_iff : typeName ∈ nonNullTypes ↔ depth = 0 ∧ inner.isNonNull := by
  have hplain : ∀ known ∈ nonNullTypes, Java.TypeName.ofString known = ⟨known, 0⟩ := by decide +kernel
  have htext := Java.TypeName.text_ofString typeName
  rcases innermost?_eq_some h with ⟨rfl, -, hrank⟩ | ⟨e, rfl, -, he, rfl⟩
  · refine iff_of_false (fun hmem => ?_) (by simp [Innermost.isNonNull])
    simp [hplain _ hmem] at hrank
  · rw [Innermost.isNonNull, isNonNull_iff he]
    constructor
    · intro hmem
      simpa [hplain _ hmem] using hmem
    · rintro ⟨hrank, hmem⟩
      rw [Java.TypeName.text, hrank] at htext
      rwa [← htext, show Java.TypeName.brackets 0 = "" from rfl, String.append_empty]

lemma null_notMem_alternatives (position : Position) : .null ∉ inner.alternatives self position false := by
  rcases innermost?_eq_some h with ⟨rfl, -⟩ | ⟨e, rfl, -, he, -⟩
  · simp [Innermost.alternatives, Innermost.alternatives.nullIf, TypeNode.named]
  · cases e with
    | scalar wrapper isPrimitive types =>
      obtain ⟨p, -, -, htypes, -⟩ := scalarOf?_of_scalar he
      have hnull := (scalarTypes?_eq_some htypes).2.2
      cases position <;> simp [Innermost.alternatives, Innermost.alternatives.nullIf, TypeNode.named, hnull]
    | _ =>
      simp [Innermost.alternatives, Innermost.alternatives.nullIf, TypeNode.named, TypeNode.string, TypeNode.void]

/-- Null comes last, once, and only outside all arrays. -/
lemma node_null (position : Position) :
    let node allowNull := (inArrays allowNull (fun null => inner.mapped self position null) depth).node
    (node true).alternatives = (node false).alternatives ++ (if typeName ∈ nonNullTypes then [] else [.null]) ∧
      .null ∉ (node false).alternatives ∧ (node true).nulls.tail = (node false).nulls.tail := by
  dsimp only
  have hsimple : ∀ null, (inner.alternatives self position null).all TypeNode.isSimple := isSimple_alternatives h position
  have halternatives := fun null => TypeNode.alternatives_unionOf (hsimple null)
  cases depth with
  | zero =>
    simp only [inArrays, node_mapped, halternatives]
    refine ⟨?_, null_notMem_alternatives h position, ?_⟩
    · simp only [mem_nonNullTypes_iff h, true_and]
      exact alternatives_null self position inner
    · rw [TypeNode.nulls_of_simple (by rw [halternatives]; exact hsimple _),
        TypeNode.nulls_of_simple (by rw [halternatives]; exact hsimple _)]
      rfl
  | succ depth =>
    have hmem : typeName ∉ nonNullTypes := by simp [mem_nonNullTypes_iff h]
    simp only [inArrays, TypeNode.alternatives_array, TypeNode.nulls_array, hmem]
    simp

end Innermost

/-! ## The four types of a name -/

/-- A type name that is mapped at all is mapped in all four ways. For a parameter, only the alternatives inside all arrays
are other ones than for another value, and null is among the alternatives wherever it is for another value. Where null is
allowed it is put at the end of the outermost alternatives, unless the type is never null. -/
theorem mapType_variants {self typeName : String}
    (h : ∃ position allowNull m, mapType self typeName position allowNull = .ok m) :
    ∃ node : Position → Bool → TypeNode,
      (∀ position allowNull, ∃ m, mapType self typeName position allowNull = .ok m ∧ m.node = node position allowNull) ∧
      (∀ allowNull, node .parameter allowNull = (node .value allowNull).atInnermost (asParameter self typeName) ∧
        (node .parameter allowNull).nulls = (node .value allowNull).nulls) ∧
      ∀ position, (node position true).alternatives =
          (node position false).alternatives ++ (if typeName ∈ nonNullTypes then [] else [.null]) ∧
        .null ∉ (node position false).alternatives ∧ (node position true).nulls.tail = (node position false).nulls.tail := by
  obtain ⟨position, allowNull, m, hm⟩ := h
  rw [mapType_eq] at hm
  cases hinner : innermost? typeName with
  | none =>
    rw [hinner] at hm
    cases hm
  | some innermost =>
    obtain ⟨inner, depth⟩ := innermost
    refine ⟨fun position allowNull => (inArrays allowNull (fun null => inner.mapped self position null) depth).node,
      fun position allowNull => ⟨_, by rw [mapType_eq, hinner], rfl⟩, fun allowNull => node_parameter hinner allowNull,
      fun position => node_null hinner position⟩

theorem mapType_variants_integers :
    ∃ node : Position → Bool → TypeNode,
      node .value false = .array (.union [.number, .null]) ∧
      node .parameter false = .array (.union [.named "IntegerClass", .number, .null]) ∧
      (node .parameter true).alternatives = [.array (.union [.named "IntegerClass", .number, .null]), .null] := by
  obtain ⟨node, hnode, hparameter, hnull⟩ :=
    @mapType_variants "java.lang.Integer" "java.lang.Integer[]" ⟨.value, false, _, rfl⟩
  have hvalue : node .value false = .array (.union [.number, .null]) := by
    obtain ⟨m, hm, hnode⟩ := hnode .value false
    rw [← hnode]
    cases hm
    rfl
  have hwith : node .parameter false = .array (.union [.named "IntegerClass", .number, .null]) := by
    rw [(hparameter false).1, hvalue]
    rfl
  refine ⟨node, hvalue, hwith, ?_⟩
  rw [(hnull .parameter).1, hwith, if_neg (by decide)]
  rfl

end Typings.Conversion
