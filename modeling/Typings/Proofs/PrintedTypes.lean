import Typings.Proofs.TextParts
import Typings.Proofs.TypePositions
import Typings.TypeScript.Printer

/-!
# Printed types

The text of a type can be read back: words, type arguments in angle brackets, parentheses that are always followed by
brackets, and alternatives between bars. Two different types therefore never have the same text, as long as their unions
are flat and the names in them are no words of the language. The unions of mapped types are flat.
-/

namespace Typings.TypeScript

open Text (afterStart?)

/-! ## Well-formed types -/

/-- The words that stand for types of the language. -/
def keywords : List String := ["number", "string", "boolean", "bigint", "void"]

def isNameChar (c : Char) : Bool :=
  Text.isWordChar c || c = '$'

/-- A name of a class: word characters and dollar signs, but no word of the language. -/
structure IsClassReference (name : String) : Prop where
  ne_empty : name ≠ ""
  chars : ∀ c ∈ name.toList, isNameChar c
  not_keyword : name ∉ keywords
  ne_null : name ≠ "null"

namespace TypeNode

mutual

/-- The type itself and all types inside it. -/
def parts : TypeNode → List TypeNode
  | .keyword word => [.keyword word]
  | .null => [.null]
  | .reference name arguments => .reference name arguments :: allParts arguments
  | .array element => .array element :: element.parts
  | .union alternatives => .union alternatives :: allParts alternatives

/-- The parts of several types. -/
def allParts : List TypeNode → List TypeNode
  | [] => []
  | t :: ts => t.parts ++ allParts ts

end

/-- Every union has two or more members, and none of them is a union. -/
def HasFlatUnions (t : TypeNode) : Prop :=
  ∀ ts, .union ts ∈ t.parts → 2 ≤ ts.length ∧ ∀ us, .union us ∉ ts

/-- A type made of words of the language, references by class names, and flat unions. -/
structure IsWellFormed (t : TypeNode) : Prop where
  keyword : ∀ word, .keyword word ∈ t.parts → word ∈ keywords
  reference : ∀ name arguments, .reference name arguments ∈ t.parts → IsClassReference name
  union : t.HasFlatUnions

lemma mem_allParts {s : TypeNode} {ts : List TypeNode} : s ∈ allParts ts ↔ ∃ t ∈ ts, s ∈ t.parts := by
  induction ts with
  | nil => simp [allParts]
  | cons t ts ih => simp [allParts, ih]

lemma mem_parts_self (t : TypeNode) : t ∈ t.parts := by
  cases t <;> simp [parts]

lemma IsWellFormed.of_subset {s t : TypeNode} (h : t.IsWellFormed) (hsub : s.parts ⊆ t.parts) : s.IsWellFormed :=
  ⟨fun word hword => h.keyword word (hsub hword), fun name arguments hin => h.reference name arguments (hsub hin),
    fun ts hts => h.union ts (hsub hts)⟩

lemma IsWellFormed.element {t : TypeNode} (h : (array t).IsWellFormed) : t.IsWellFormed :=
  h.of_subset fun s hs => by simp [parts, hs]

lemma IsWellFormed.argument {name : String} {ts : List TypeNode} (h : (TypeNode.reference name ts).IsWellFormed)
    {t : TypeNode} (ht : t ∈ ts) : t.IsWellFormed :=
  h.of_subset fun s hs => by simp only [parts, List.mem_cons, mem_allParts]; exact .inr ⟨t, ht, hs⟩

lemma IsWellFormed.member {ts : List TypeNode} (h : (TypeNode.union ts).IsWellFormed) {t : TypeNode} (ht : t ∈ ts) :
    t.IsWellFormed :=
  h.of_subset fun s hs => by simp only [parts, List.mem_cons, mem_allParts]; exact .inr ⟨t, ht, hs⟩

/-! ## Texts of types -/

def chars (t : TypeNode) : List Char := t.print.toList

lemma printAll_eq (ts : List TypeNode) : printAll ts = ts.map print := by
  induction ts with
  | nil => rfl
  | cons t ts ih => rw [printAll, ih, List.map_cons]

lemma toList_printAll (separator : String) (ts : List TypeNode) :
    (separator.intercalate (printAll ts)).toList = separator.toList.intercalate (ts.map chars) := by
  rw [String.toList_intercalate, printAll_eq, List.map_map]
  rfl

lemma chars_reference (name : String) {ts : List TypeNode} (hts : ts ≠ []) :
    (reference name ts).chars = name.toList ++ '<' :: (", ".toList.intercalate (ts.map chars) ++ ['>']) := by
  cases ts with
  | nil => exact absurd rfl hts
  | cons t ts =>
    rw [chars, print, String.toList_append, String.toList_append, String.toList_append, toList_printAll]
    simp

lemma chars_union (ts : List TypeNode) : (union ts).chars = " | ".toList.intercalate (ts.map chars) := by
  rw [chars, print, toList_printAll]

lemma chars_array_union (ts : List TypeNode) : (array (union ts)).chars = '(' :: ((union ts).chars ++ [')', '[', ']']) := by
  rw [chars, print, String.toList_append, String.toList_append, toList_printAll, chars_union]
  rfl

lemma chars_array {t : TypeNode} (ht : ∀ ts, t ≠ union ts) : (array t).chars = t.chars ++ ['[', ']'] := by
  rw [chars, print]
  · rw [String.toList_append]
    rfl
  · exact ht

/-! ## Reading a type -/

/-- Reads brackets behind a type. -/
def withBrackets (t : TypeNode) : List Char → TypeNode × List Char
  | '[' :: ']' :: rest => withBrackets (.array t) rest
  | rest => (t, rest)

/-- Reads one item or more with separators between them, at most as many as the bound says. -/
def readSeparated (separator : List Char) (item : List Char → Option (TypeNode × List Char)) :
    Nat → List Char → Option (List TypeNode × List Char)
  | 0, _ => none
  | bound + 1, cs =>
    match item cs with
    | none => none
    | some (t, rest) =>
      match afterStart? separator rest with
      | none => some ([t], rest)
      | some more => (readSeparated separator item bound more).map fun (ts, rest) => (t :: ts, rest)

/-- The type that a word stands for. -/
def ofWord (word : String) : TypeNode :=
  if word = "null" then .null else if word ∈ keywords then .keyword word else .named word

/-- Reads a type that is no union; `inner` reads the types inside it. -/
def readAlternative (bound : Nat) (inner : List Char → Option (TypeNode × List Char)) :
    List Char → Option (TypeNode × List Char)
  | '(' :: cs =>
    match inner cs with
    | some (t, ')' :: rest) => some (withBrackets t rest)
    | _ => none
  | cs =>
    let word := String.ofList (cs.takeWhile isNameChar)
    match cs.dropWhile isNameChar with
    | '<' :: rest =>
      match readSeparated ", ".toList inner bound rest with
      | some (ts, '>' :: rest) => some (withBrackets (.reference word ts) rest)
      | _ => none
    | rest => some (withBrackets (ofWord word) rest)

/-- Reads a type with at most the given depth and breadth. -/
def read : Nat → List Char → Option (TypeNode × List Char)
  | 0, _ => none
  | bound + 1, cs =>
    (readSeparated " | ".toList (readAlternative bound (read bound)) (bound + 1) cs).map fun (ts, rest) => (unionOf ts, rest)

/-! ## Reading a text back -/

lemma withBrackets_of_head {rest : List Char} (h : ∀ c ∈ rest.head?, c ≠ '[') (t : TypeNode) :
    withBrackets t rest = (t, rest) := by
  rw [withBrackets]
  rintro more rfl
  exact h '[' rfl rfl

/-- Items that are read back one by one are read back with separators between them. -/
lemma readSeparated_intercalate {separator : List Char} {item : List Char → Option (TypeNode × List Char)}
    (follows : List Char → Prop) {ts : List TypeNode} {rest : List Char} {bound : Nat} (hne : ts ≠ [])
    (hbound : ts.length ≤ bound) (hitem : ∀ t ∈ ts, ∀ rest, follows rest → item (t.chars ++ rest) = some (t, rest))
    (hseparator : ∀ more, follows (separator ++ more)) (hrest : follows rest) (hend : afterStart? separator rest = none) :
    readSeparated separator item bound (separator.intercalate (ts.map chars) ++ rest) = some (ts, rest) := by
  induction ts generalizing bound with
  | nil => exact absurd rfl hne
  | cons t ts ih =>
    obtain ⟨ht, hts⟩ := List.forall_mem_cons.1 hitem
    obtain ⟨bound, rfl⟩ : ∃ b, bound = b + 1 := ⟨bound - 1, by simp at hbound; omega⟩
    cases ts with
    | nil =>
      rw [readSeparated, List.map_singleton, List.intercalate_singleton, ht rest hrest]
      simp only [hend]
    | cons u ts =>
      have hmore := ih (List.cons_ne_nil _ _) (by simpa using hbound) hts
      rw [List.map_cons] at hmore
      rw [readSeparated, List.map_cons, List.map_cons, List.intercalate_cons_cons, List.append_assoc, List.append_assoc,
        ht _ (hseparator _)]
      simp only [Text.afterStart?_append, hmore, Option.map_some]

section Word

variable {word rest : List Char} (hne : word ≠ []) (hword : ∀ c ∈ word, isNameChar c)
  (bound : Nat) (inner : List Char → Option (TypeNode × List Char))

include hne hword

lemma not_parenthesis (cs : List Char) : word ++ rest ≠ '(' :: cs := by
  intro h
  cases word with
  | nil => exact hne rfl
  | cons c word =>
    obtain ⟨rfl, -⟩ := List.cons.inj h
    exact absurd (hword '(' List.mem_cons_self) (by decide)

lemma readAlternative_word (hrest : ∀ c ∈ rest.head?, isNameChar c = false ∧ c ≠ '<') :
    readAlternative bound inner (word ++ rest) = some (withBrackets (ofWord (String.ofList word)) rest) := by
  obtain ⟨htake, hdrop⟩ := Text.takeWhile_dropWhile_append hword fun c hc => (hrest c hc).1
  rw [readAlternative]
  · simp only [htake, hdrop]
    split
    · next rest => exact absurd rfl (hrest '<' rfl).2
    · rfl
  · exact not_parenthesis hne hword

lemma readAlternative_arguments {ts : List TypeNode} {more : List Char}
    (hts : readSeparated ", ".toList inner bound more = some (ts, '>' :: rest)) :
    readAlternative bound inner (word ++ '<' :: more) =
      some (withBrackets (.reference (String.ofList word) ts) rest) := by
  obtain ⟨htake, hdrop⟩ := Text.takeWhile_dropWhile_append hword
    (by simp; decide : ∀ c ∈ ('<' :: more).head?, isNameChar c = false)
  rw [readAlternative]
  · simp only [htake, hdrop, hts]
  · exact not_parenthesis hne hword

end Word

lemma readAlternative_parenthesis {bound : Nat} {inner : List Char → Option (TypeNode × List Char)} {t : TypeNode}
    {cs rest : List Char} (h : inner cs = some (t, ')' :: rest)) :
    readAlternative bound inner ('(' :: cs) = some (withBrackets t rest) := by
  simp only [readAlternative, h]

/-- What may follow a type as a whole. -/
def Ends (rest : List Char) : Prop :=
  ∀ c ∈ rest.head?, c ∈ [')', '>', ',']

/-- What may follow a type that is no union: a bar, or what may follow a union. -/
def Follows (rest : List Char) : Prop :=
  ∀ c ∈ rest.head?, c ∈ [' ', ')', '>', ',']

/-- The types up to some size are read back, whatever follows. -/
def ReadsBack (bound : Nat) : Prop :=
  ∀ t : TypeNode, t.IsWellFormed → sizeOf t ≤ bound → ∀ rest, Ends rest → read bound (t.chars ++ rest) = some (t, rest)

lemma ofWord_keyword {word : String} (h : word ∈ keywords) : ofWord word = .keyword word := by
  have hnull : word ≠ "null" := by
    rintro rfl
    exact absurd h (by decide)
  rw [ofWord, if_neg hnull, if_pos h]

lemma ofWord_name {name : String} (h : IsClassReference name) : ofWord name = .named name := by
  rw [ofWord, if_neg h.ne_null, if_neg h.not_keyword]

lemma sizeOf_pos (t : TypeNode) : 0 < sizeOf t := by
  cases t with
  | null => decide
  | keyword | reference | array | union =>
    simp only [keyword.sizeOf_spec, reference.sizeOf_spec, array.sizeOf_spec, union.sizeOf_spec]
    omega

lemma length_lt_sizeOf (ts : List TypeNode) : ts.length < sizeOf ts := by
  induction ts with
  | nil => simp
  | cons t ts ih =>
    simp only [List.length_cons, List.cons.sizeOf_spec]
    omega

/-- Brackets behind a type belong to it, so an array is read by way of its elements. -/
theorem readAlternative_chars {bound : Nat} (hread : ReadsBack bound) :
    ∀ t : TypeNode, t.IsWellFormed → (∀ ts, t ≠ .union ts) → sizeOf t ≤ bound + 1 →
      ∀ rest, (∀ c ∈ rest.head?, isNameChar c = false ∧ c ≠ '<') →
        readAlternative bound (read bound) (t.chars ++ rest) = some (withBrackets t rest)
  | .keyword word, h, _, _, rest, hrest => by
    have hword : word ∈ keywords := h.keyword word (mem_parts_self _)
    have hchars : ∀ word ∈ keywords, word.toList ≠ [] ∧ word.toList.all isNameChar := by decide +kernel
    obtain ⟨hne, hall⟩ := hchars word hword
    rw [chars, print, readAlternative_word hne (List.all_eq_true.1 hall) _ _ hrest, String.ofList_toList,
      ofWord_keyword hword]
  | .null, _, _, _, rest, hrest => by
    have hall : "null".toList.all isNameChar := by decide +kernel
    rw [chars, print, readAlternative_word (by decide) (List.all_eq_true.1 hall) _ _ hrest]
    rfl
  | .reference name ts, h, _, hsize, rest, hrest => by
    have hname := h.reference name ts (mem_parts_self _)
    have hne : name.toList ≠ [] := by simpa using hname.ne_empty
    cases hts : ts with
    | nil =>
      rw [chars, print, readAlternative_word hne hname.chars _ _ hrest, String.ofList_toList, ofWord_name hname]
      rfl
    | cons t more =>
      have hlength := length_lt_sizeOf ts
      rw [reference.sizeOf_spec] at hsize
      have harguments : readSeparated ", ".toList (read bound) bound (", ".toList.intercalate (ts.map chars) ++ '>' :: rest) =
          some (ts, '>' :: rest) := by
        refine readSeparated_intercalate Ends (by simp [hts]) (by omega) (fun t ht rest hrest => ?_) (fun more => ?_) ?_ rfl
        · have hlt := List.sizeOf_lt_of_mem ht
          exact hread t (h.argument ht) (by omega) rest hrest
        · simp [Ends]
        · simp [Ends]
      rw [← hts, chars_reference name (by simp [hts]), List.append_assoc, List.cons_append, List.append_assoc,
        List.singleton_append, readAlternative_arguments hne hname.chars _ _ harguments, String.ofList_toList]
  | .array t, h, _, hsize, rest, hrest => by
    rw [array.sizeOf_spec] at hsize
    by_cases hunion : ∃ ts, t = .union ts
    · -- Parentheses stand around a union only, so what is inside them is read as a type of its own.
      obtain ⟨ts, rfl⟩ := hunion
      have hinner := hread _ h.element (by omega) (')' :: '[' :: ']' :: rest) (by simp [Ends])
      rw [chars_array_union, List.cons_append, List.append_assoc, List.cons_append, List.cons_append, List.singleton_append,
        readAlternative_parenthesis hinner, withBrackets]
    · rw [not_exists] at hunion
      have hbracket : ∀ c ∈ ('[' :: ']' :: rest).head?, isNameChar c = false ∧ c ≠ '<' := by simp; decide
      rw [chars_array hunion, List.append_assoc]
      exact readAlternative_chars hread t h.element hunion (by omega) _ hbracket
  | .union ts, _, hunion, _, _, _ => absurd rfl (hunion ts)

/-! ## Unions and their alternatives -/

lemma chars_alternatives (t : TypeNode) : t.chars = " | ".toList.intercalate (t.alternatives.map chars) := by
  cases t with
  | union ts => exact chars_union ts
  | _ => rw [alternatives, List.map_singleton, List.intercalate_singleton]; simp

section Alternatives

variable {t : TypeNode} (h : t.IsWellFormed)

include h

lemma IsWellFormed.unionOf_alternatives : t.alternatives ≠ [] ∧ unionOf t.alternatives = t := by
  cases t with
  | union ts =>
    have hlength := (h.union ts (mem_parts_self _)).1
    match ts, hlength with
    | _ :: _ :: _, _ => exact ⟨by simp [alternatives], rfl⟩
  | _ => simp [alternatives, unionOf]

lemma IsWellFormed.alternative {s : TypeNode} (hs : s ∈ t.alternatives) :
    s.IsWellFormed ∧ (∀ ts, s ≠ .union ts) ∧ sizeOf s ≤ sizeOf t := by
  cases t with
  | union ts =>
    have hlt := List.sizeOf_lt_of_mem hs
    rw [alternatives] at hlt
    refine ⟨h.member hs, ?_, by simp; omega⟩
    rintro us rfl
    exact (h.union ts (mem_parts_self _)).2 us hs
  | _ =>
    obtain rfl := List.mem_singleton.1 hs
    simp [h]

end Alternatives

lemma length_alternatives (t : TypeNode) : t.alternatives.length ≤ sizeOf t := by
  cases t with
  | union ts =>
    have hlength := length_lt_sizeOf ts
    simp only [alternatives, union.sizeOf_spec]
    omega
  | _ => exact sizeOf_pos _

/-- The text of a type, followed by the end of a type, is read as that type. The induction is on the bound, and the
alternatives of a type are read with the next smaller one. -/
theorem read_chars (bound : Nat) : ReadsBack bound := by
  induction bound with
  | zero =>
    intro t _ hsize
    have hpos := sizeOf_pos t
    omega
  | succ bound ih =>
    intro t h hsize rest hrest
    obtain ⟨hne, hunion⟩ := h.unionOf_alternatives
    have hlength := length_alternatives t
    have hitem : ∀ s ∈ t.alternatives, ∀ rest, Follows rest →
        readAlternative bound (read bound) (s.chars ++ rest) = some (s, rest) := by
      intro s hs rest hrest
      obtain ⟨hwellFormed, hsingle, hle⟩ := h.alternative hs
      have hname : ∀ c ∈ [' ', ')', '>', ','], isNameChar c = false ∧ c ≠ '<' ∧ c ≠ '[' := by
        intro c hc
        simp only [List.mem_cons, List.not_mem_nil, or_false] at hc
        rcases hc with rfl | rfl | rfl | rfl <;> decide
      rw [readAlternative_chars ih s hwellFormed hsingle (by omega) rest fun c hc =>
          ⟨(hname c (hrest c hc)).1, (hname c (hrest c hc)).2.1⟩,
        withBrackets_of_head fun c hc => (hname c (hrest c hc)).2.2]
    have hbar : afterStart? " | ".toList rest = none := by
      cases rest with
      | nil => rfl
      | cons c rest =>
        have hc : ' ' ≠ c := by
          rintro rfl
          exact absurd (hrest ' ' rfl) (by decide)
        exact if_neg hc
    rw [read, chars_alternatives, readSeparated_intercalate Follows hne (by omega) hitem (by simp [Follows])
      (fun c hc => List.mem_cons_of_mem _ (hrest c hc)) hbar, Option.map_some]
    simp only [hunion]

/-! ## Mapped types -/

lemma hasFlatUnions_of_isSimple {t : TypeNode} (h : t.isSimple) : t.HasFlatUnions := by
  intro ts hts
  cases t with
  | reference name arguments =>
    cases arguments with
    | nil => simp [parts, allParts] at hts
    | cons t ts => cases h
  | array | union => cases h
  | _ => simp [parts] at hts

lemma hasFlatUnions_unionOf {ts : List TypeNode} (hne : ts ≠ []) (h : ∀ t ∈ ts, t.HasFlatUnions ∧ ∀ us, t ≠ .union us) :
    (unionOf ts).HasFlatUnions := by
  unfold unionOf
  split
  · next t => exact (h t List.mem_cons_self).1
  · next hsingle =>
    intro us hus
    rcases List.mem_cons.1 hus with heq | hin
    · obtain rfl := TypeNode.union.inj heq
      refine ⟨?_, fun vs hvs => (h _ hvs).2 vs rfl⟩
      match us, hne, hsingle with
      | [t], _, hsingle => exact absurd rfl (hsingle t)
      | _ :: _ :: _, _, _ => simp
    · obtain ⟨t, ht, hin⟩ := mem_allParts.1 hin
      exact (h t ht).1 us hin

lemma HasFlatUnions.array {t : TypeNode} (h : t.HasFlatUnions) : (TypeNode.array t).HasFlatUnions := by
  intro ts hts
  exact h ts (by simpa [parts] using hts)

lemma HasFlatUnions.orNull_array {t : TypeNode} (h : t.HasFlatUnions) (allowNull : Bool) :
    ((TypeNode.array t).orNull allowNull).HasFlatUnions := by
  cases allowNull with
  | false => exact h.array
  | true =>
    rw [orNull, if_pos rfl]
    refine hasFlatUnions_unionOf (List.cons_ne_nil _ _) ?_
    simp only [List.mem_cons, List.not_mem_nil, or_false, forall_eq_or_imp, forall_eq]
    exact ⟨⟨h.array, by simp⟩, hasFlatUnions_of_isSimple rfl, by simp⟩

lemma HasFlatUnions.promise {t : TypeNode} (h : t.HasFlatUnions) : t.promise.HasFlatUnions := by
  intro ts hts
  exact h ts (by simpa [TypeNode.promise, parts, allParts] using hts)

end TypeNode

end Typings.TypeScript

namespace Typings.Conversion

open TypeScript (TypeNode)

lemma alternatives_ne_nil {self typeName : String} {inner : Innermost} {depth : Nat}
    (h : innermost? typeName = some (inner, depth)) (position : Position) (allowNull : Bool) :
    inner.alternatives self position allowNull ≠ [] := by
  rcases innermost?_eq_some h with ⟨rfl, -⟩ | ⟨e, rfl, -, he, -⟩
  · simp [Innermost.alternatives]
  · cases e with
    | scalar wrapper isPrimitive types =>
      obtain ⟨p, -, -, htypes, -⟩ := scalarOf?_of_scalar he
      have hne := (scalarTypes?_eq_some htypes).1
      simp [Innermost.alternatives, hne]
    | _ => simp [Innermost.alternatives]

lemma hasFlatUnions_inArrays {element : Bool → Mapped} (h : ∀ allowNull, (element allowNull).node.HasFlatUnions)
    (allowNull : Bool) (depth : Nat) : (inArrays allowNull element depth).node.HasFlatUnions := by
  induction depth generalizing allowNull with
  | zero => exact h allowNull
  | succ depth ih => exact (ih true).orNull_array allowNull

lemma hasFlatUnions_mapType {self typeName : String} {position : Position} {allowNull : Bool} {m : Mapped}
    (h : mapType self typeName position allowNull = .ok m) : m.node.HasFlatUnions := by
  rw [mapType_eq] at h
  split at h
  · cases h
  · next inner depth hinner =>
    cases h
    refine hasFlatUnions_inArrays (fun null => ?_) allowNull depth
    have hsimple : (inner.alternatives self position null).all TypeNode.isSimple := isSimple_alternatives hinner position null
    rw [node_mapped]
    refine TypeNode.hasFlatUnions_unionOf (alternatives_ne_nil hinner position null) fun t ht => ?_
    have ht := List.all_eq_true.1 hsimple t ht
    refine ⟨TypeNode.hasFlatUnions_of_isSimple ht, ?_⟩
    rintro us rfl
    cases ht

/-! ## Texts of different types -/

/-- Well-formed types with the same text are the same type, and the unions of a mapped type are flat, as they have to be
for that, also where a method returns a promise of it. -/
theorem print_injective :
    (∀ s t : TypeNode, s.IsWellFormed → t.IsWellFormed → s.print = t.print → s = t) ∧
      ∀ self typeName position allowNull m, mapType self typeName position allowNull = .ok m →
        m.node.HasFlatUnions ∧ m.node.promise.HasFlatUnions := by
  constructor
  · intro s t hs ht hprint
    have hends : TypeNode.Ends [] := by simp [TypeNode.Ends]
    -- With a bound that is large enough for both types, their common text is read as each of them.
    have hread := TypeNode.read_chars (sizeOf s + sizeOf t)
    have hchars : s.chars = t.chars := congrArg String.toList hprint
    have hsame := hread s hs (by omega) [] hends
    rw [hchars, hread t ht (by omega) [] hends] at hsame
    cases hsame
    rfl
  · intro self typeName position allowNull m hm
    have hflat := hasFlatUnions_mapType hm
    exact ⟨hflat, hflat.promise⟩

theorem print_injective_arrays :
    let arrayOfUnion := TypeNode.array (.union [.named "A", .named "B"])
    let unionWithArray := TypeNode.union [.named "A", .array (.named "B")]
    (arrayOfUnion.IsWellFormed ∧ unionWithArray.IsWellFormed ∧ arrayOfUnion.print ≠ unionWithArray.print) ∧
      ∃ m, mapType "p.A" "java.lang.Integer[]" .parameter true = .ok m ∧
        m.node = .union [.array (.union [.named "java_lang_Integer", .number, .null]), .null] ∧
        m.node.HasFlatUnions ∧ m.node.promise.HasFlatUnions := by
  intro arrayOfUnion unionWithArray
  have hnames : ∀ name arguments, (name = "A" ∧ arguments = []) ∨ (name = "B" ∧ arguments = ([] : List TypeNode)) →
      TypeScript.IsClassReference name := by
    rintro name arguments (⟨rfl, -⟩ | ⟨rfl, -⟩) <;>
      exact ⟨by decide, List.all_eq_true.1 (by decide +kernel), by decide, by decide⟩
  have hfirst : arrayOfUnion.IsWellFormed := by
    constructor
    case keyword => simp [arrayOfUnion, TypeNode.parts, TypeNode.allParts, TypeNode.named]
    case reference => simpa [arrayOfUnion, TypeNode.parts, TypeNode.allParts, TypeNode.named] using hnames
    case union => simp [TypeNode.HasFlatUnions, arrayOfUnion, TypeNode.parts, TypeNode.allParts, TypeNode.named]
  have hsecond : unionWithArray.IsWellFormed := by
    constructor
    case keyword => simp [unionWithArray, TypeNode.parts, TypeNode.allParts, TypeNode.named]
    case reference => simpa [unionWithArray, TypeNode.parts, TypeNode.allParts, TypeNode.named] using hnames
    case union => simp [TypeNode.HasFlatUnions, unionWithArray, TypeNode.parts, TypeNode.allParts, TypeNode.named]
  have hmapped : mapType "p.A" "java.lang.Integer[]" .parameter true = .ok _ := rfl
  refine ⟨⟨hfirst, hsecond, fun heq => ?_⟩, _, hmapped, rfl, print_injective.2 _ _ _ _ _ hmapped⟩
  exact TypeNode.noConfusion (print_injective.1 _ _ hfirst hsecond heq)

end Typings.Conversion
