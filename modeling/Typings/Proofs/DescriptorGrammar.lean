import Typings.Proofs.Descriptors

/-!
# The grammar of descriptors

The words of the grammar are given without regard to how they are read. A text is read if it begins with such a word, and
what follows the word makes no difference. The types of a method can therefore be written as a descriptor and read back.
-/

namespace Typings.Java

namespace Descriptor

/-! ## Words -/

/-- The letters with the types that they stand for. -/
def letters : List (Char × String) :=
  [('B', "byte"), ('C', "char"), ('D', "double"), ('F', "float"), ('I', "int"), ('J', "long"), ('S', "short"),
   ('Z', "boolean"), ('V', "void")]

/-- The word spells the type: a letter, or the name of a class between `L` and a semicolon, after a bracket for each
array dimension. -/
inductive SpellsType : List Char → TypeName → Prop
  | letter {c : Char} {name : String} (h : (c, name) ∈ letters) : SpellsType [c] ⟨name, 0⟩
  | className {cs : List Char} (h : ';' ∉ cs) : SpellsType ('L' :: cs ++ [';']) ⟨dotted cs, 0⟩
  | array {word : List Char} {t : TypeName} (h : SpellsType word t) :
      SpellsType ('[' :: word) { t with rank := t.rank + 1 }

/-- The word spells the types of a field or of a method. -/
inductive Spells : List Char → Descriptor → Prop
  | field {word : List Char} {t : TypeName} (h : SpellsType word t) : Spells word ⟨none, t.text⟩
  | method {words : List (List Char)} {word : List Char} {ts : List TypeName} {t : TypeName}
      (hparameters : List.Forall₂ SpellsType words ts) (hreturn : SpellsType word t) :
      Spells ('(' :: words.flatten ++ ')' :: word) ⟨some (ts.map TypeName.text), t.text⟩

lemma letterType?_eq_some_iff {c : Char} {name : String} : letterType? c = some name ↔ (c, name) ∈ letters := by
  constructor
  · intro h
    unfold letterType? at h
    split at h <;> cases h <;> simp [letters]
  · intro h
    simp only [letters, List.mem_cons, Prod.mk.injEq, List.not_mem_nil, or_false] at h
    rcases h with ⟨rfl, rfl⟩ | ⟨rfl, rfl⟩ | ⟨rfl, rfl⟩ | ⟨rfl, rfl⟩ | ⟨rfl, rfl⟩ | ⟨rfl, rfl⟩ | ⟨rfl, rfl⟩ | ⟨rfl, rfl⟩ |
      ⟨rfl, rfl⟩ <;> rfl

/-! ## Reading words -/

lemma SpellsType.denotes {word : List Char} {t : TypeName} (h : SpellsType word t) : Denotes word t := by
  induction h with
  | letter h => exact .of_letter (letterType?_eq_some_iff.2 h)
  | className h => exact .of_className h
  | array _ ih => exact ih.array

/-- A type is read only off a word of the grammar. -/
theorem spellsType_of_readType {cs rest : List Char} {t : TypeName} (h : readType cs = .ok (t, rest)) :
    ∃ word, cs = word ++ rest ∧ SpellsType word t := by
  fun_induction readType cs generalizing t rest with
  | case1 => cases h
  | case2 cs ih =>
    cases hread : readType cs with
    | error e =>
      rw [hread] at h
      cases h
    | ok r =>
      rw [hread] at h
      cases h
      obtain ⟨word, rfl, hword⟩ := ih hread
      exact ⟨'[' :: word, rfl, hword.array⟩
  | case3 => cases h
  | case4 cs semicolon rest' hdrop =>
    cases h
    have hcut := List.takeWhile_append_dropWhile (p := fun c : Char => decide (c ≠ ';')) (l := cs)
    -- What the name ends at is not part of it.
    have hsemicolon : semicolon = ';' := by
      have hhead := List.head?_dropWhile_not (fun c : Char => decide (c ≠ ';')) cs
      rw [hdrop] at hhead
      simpa using hhead
    have hname : ';' ∉ cs.takeWhile (fun c : Char => decide (c ≠ ';')) := by
      intro hmem
      simpa using List.mem_takeWhile_imp hmem
    refine ⟨'L' :: cs.takeWhile (fun c : Char => decide (c ≠ ';')) ++ [';'], ?_, .className hname⟩
    rw [hdrop, hsemicolon] at hcut
    rw [List.cons_append, List.cons_append, List.append_assoc, List.singleton_append, hcut]
  | case5 c cs _ _ name hletter =>
    cases h
    exact ⟨[c], rfl, .letter (letterType?_eq_some_iff.1 hletter)⟩
  | case6 => cases h

theorem spellsTypes_of_readTypes {cs rest : List Char} {ts : List TypeName} (h : readTypes cs = .ok (ts, rest)) :
    ∃ words, cs = words.flatten ++ ')' :: rest ∧ List.Forall₂ SpellsType words ts := by
  fun_induction readTypes cs generalizing ts rest with
  | case1 => cases h
  | case2 =>
    cases h
    exact ⟨[], rfl, .nil⟩
  | case3 => cases h
  | case4 c cs _ t next hfirst ih =>
    cases hread : readTypes next with
    | error e =>
      rw [hread] at h
      cases h
    | ok r =>
      rw [hread] at h
      cases h
      obtain ⟨word, hword, hspells⟩ := spellsType_of_readType hfirst
      obtain ⟨words, rfl, hwords⟩ := ih hread
      exact ⟨word :: words, by rw [hword, List.flatten_cons, List.append_assoc], .cons hspells hwords⟩

/-- A text is read exactly if it begins with a word of the grammar, and then comes to what the word spells. -/
theorem read_eq_ok_iff {cs : List Char} {d : Descriptor} :
    read cs = .ok d ↔ ∃ word rest, cs = word ++ rest ∧ Spells word d := by
  constructor
  · intro h
    unfold read at h
    split at h
    · next cs' =>
      cases hparameters : readTypes cs' with
      | error e =>
        rw [hparameters] at h
        cases h
      | ok r =>
        cases hreturn : readType r.2 with
        | error e =>
          simp only [hparameters, hreturn, bind, Except.bind] at h
          cases h
        | ok r' =>
          simp only [hparameters, hreturn, bind, Except.bind] at h
          cases h
          obtain ⟨words, rfl, hwords⟩ := spellsTypes_of_readTypes hparameters
          obtain ⟨word, hword, hspells⟩ := spellsType_of_readType hreturn
          exact ⟨_, r'.2, by simp [hword], .method hwords hspells⟩
    · cases hread : readType cs with
      | error e =>
        rw [hread] at h
        cases h
      | ok r =>
        rw [hread] at h
        cases h
        obtain ⟨word, hword, hspells⟩ := spellsType_of_readType hread
        exact ⟨word, r.2, hword, .field hspells⟩
  · rintro ⟨word, rest, rfl, hword⟩
    cases hword with
    | field h => exact read_field h.denotes rest
    | method hparameters hreturn =>
      have hread := read_method (hparameters.imp fun _ _ h => h.denotes) hreturn.denotes rest
      rwa [← List.cons_append, ← List.append_assoc] at hread

end Descriptor

/-! ## Writing types -/

/-- A binary name without the characters that have a meaning of their own in descriptors. -/
structure BinaryName where
  text : String
  slash : '/' ∉ text.toList
  semicolon : ';' ∉ text.toList

/-- The name with slashes for dots. -/
def BinaryName.slashed (n : BinaryName) : List Char :=
  n.text.toList.map fun c => if c = '.' then '/' else c

/-- The type of a member. -/
inductive MemberType
  | void
  | primitive (p : Primitive)
  | ofClass (name : BinaryName)
  | array (element : MemberType)

namespace MemberType

/-- The name of the type. -/
def text : MemberType → String
  | void => "void"
  | primitive p => p.name
  | ofClass name => name.text
  | array element => element.text ++ "[]"

/-- The type as a descriptor has it. -/
def written : MemberType → List Char
  | void => ['V']
  | primitive p => [p.letter]
  | ofClass name => 'L' :: name.slashed ++ [';']
  | array element => '[' :: element.written

/-- The types of a method's parameters and its return type as a descriptor has them. -/
def writtenMethod (parameters : List MemberType) (result : MemberType) : String :=
  String.ofList ('(' :: (parameters.map written).flatten ++ ')' :: result.written)

end MemberType

lemma BinaryName.dotted_slashed (n : BinaryName) : Descriptor.dotted n.slashed = n.text := by
  have hback : ∀ c ∈ n.text.toList,
      (if (if c = '.' then '/' else c) = '/' then '.' else if c = '.' then '/' else c) = c := by
    intro c hc
    have hslash : c ≠ '/' := by
      rintro rfl
      exact n.slash hc
    by_cases hdot : c = '.' <;> simp [hdot, hslash]
  rw [Descriptor.dotted, slashed, List.map_map, ← String.toList_inj, String.toList_ofList]
  exact (List.map_congr_left hback).trans (List.map_id _)

lemma BinaryName.semicolon_notMem_slashed (n : BinaryName) : ';' ∉ n.slashed := by
  intro hmem
  obtain ⟨c, hc, heq⟩ := List.mem_map.1 hmem
  split at heq
  · cases heq
  · exact n.semicolon (heq ▸ hc)

lemma MemberType.exists_spells (t : MemberType) :
    ∃ name : TypeName, Descriptor.SpellsType t.written name ∧ name.text = t.text := by
  induction t with
  | void =>
    refine ⟨⟨"void", 0⟩, .letter (by simp [Descriptor.letters]), ?_⟩
    simp [TypeName.text, TypeName.brackets, text]
  | primitive p =>
    refine ⟨_, .letter (Descriptor.letterType?_eq_some_iff.1 p.letterType?_letter), ?_⟩
    simp [TypeName.text, TypeName.brackets, text]
  | ofClass name =>
    refine ⟨_, .className name.semicolon_notMem_slashed, ?_⟩
    simp [TypeName.text, TypeName.brackets, text, name.dotted_slashed]
  | array element ih =>
    obtain ⟨name, hspells, htext⟩ := ih
    exact ⟨_, hspells.array, by rw [TypeName.text_succ, htext, text]⟩

lemma MemberType.exists_spells_each (ts : List MemberType) :
    ∃ names : List TypeName, List.Forall₂ Descriptor.SpellsType (ts.map written) names ∧
      names.map TypeName.text = ts.map text := by
  induction ts with
  | nil => exact ⟨[], .nil, rfl⟩
  | cons t ts ih =>
    obtain ⟨name, hspells, htext⟩ := t.exists_spells
    obtain ⟨names, hall, htexts⟩ := ih
    exact ⟨name :: names, .cons hspells hall, by rw [List.map_cons, List.map_cons, htext, htexts]⟩

namespace Descriptor

/-- A descriptor is accepted exactly if it begins with a word of the grammar, and then it names the types that this word
spells. So the types of every method and of every field can be written and read back. -/
theorem ofString_spelled :
    (∀ (s : String) (d : Descriptor), ofString s = .ok d ↔ ∃ word rest, s.toList = word ++ rest ∧ Spells word d) ∧
      (∀ (parameters : List MemberType) (result : MemberType),
        ofString (MemberType.writtenMethod parameters result) =
          .ok ⟨some (parameters.map MemberType.text), result.text⟩) ∧
      ∀ t : MemberType, ofString (String.ofList t.written) = .ok ⟨none, t.text⟩ := by
  refine ⟨fun s d => ofString_eq_ok_iff.trans read_eq_ok_iff, fun parameters result => ?method, fun t => ?field⟩
  case method =>
    obtain ⟨names, hnames, htexts⟩ := MemberType.exists_spells_each parameters
    obtain ⟨name, hname, htext⟩ := result.exists_spells
    rw [MemberType.writtenMethod, ← htexts, ← htext]
    exact ofString_method (hnames.imp fun _ _ h => h.denotes) hname.denotes
  case field =>
    obtain ⟨name, hname, htext⟩ := t.exists_spells
    rw [← htext]
    exact ofString_field hname.denotes

end Descriptor

end Typings.Java
