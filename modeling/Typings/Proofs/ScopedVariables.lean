import Mathlib.Data.Fintype.Card
import Mathlib.Data.List.Basic
import Mathlib.Data.Set.Finite.Basic
import Mathlib.Data.Set.Finite.List
import Mathlib.Logic.Relation
import Typings.Proofs.Actions
import Typings.Source.Resolution

/-!
# Type variables and where they are declared

A type variable belongs to a method or to one of the types around it, and its bounds mean what they mean there. Erasure
instead goes through all variables that are known where the first one is used. The two come to the same as long as every
name on the way means the same at both places.
-/

namespace Typings.Source

open Relation (ReflTransGen TransGen)

/-! ## Scopes of members -/

/-- Where the types of a member are: in a type and, for a method, in the scope of its type parameters. -/
structure MemberScope where
  type : SourceType
  parameters : List TypeParameter := []
  deriving DecidableEq, Repr

/-- The types of a chain as scopes, innermost first, and the variables that each declares. -/
def typeLevels (file : FileScope) : List NamedType → List (MemberScope × TypeVariables)
  | [] => []
  | n :: enclosing =>
    ({ type := { toNamedType := n, enclosing := enclosing, file := file } }, typeVariables n.header.typeParameters) ::
      typeLevels file enclosing

namespace MemberScope

/-- All variables that are known in the scope. -/
def typeVariables (s : MemberScope) : TypeVariables :=
  Source.typeVariables s.parameters ++ s.type.typeVariables

/-- The scope and those around it, innermost first, and the variables that each declares. -/
def levels (s : MemberScope) : List (MemberScope × TypeVariables) :=
  (s, Source.typeVariables s.parameters) :: typeLevels s.type.file s.type.chain

/-- The innermost scope that declares a variable, and the bounds of the variable. -/
def declared? (s : MemberScope) (name : String) : Option (MemberScope × List TypeUse) :=
  s.levels.findSome? fun level => (level.2.lookup name).map (level.1, ·)

end MemberScope

section Levels

variable {file : FileScope} {chain : List NamedType} {s scope : MemberScope} {name : String} {bounds : List TypeUse}

lemma flatMap_typeLevels (file : FileScope) (chain : List NamedType) :
    (typeLevels file chain).flatMap (·.2) = chain.flatMap fun n => typeVariables n.header.typeParameters := by
  induction chain with
  | nil => rfl
  | cons n chain ih => rw [typeLevels, List.flatMap_cons, List.flatMap_cons, ih]

lemma lookup_levels (levels : List (MemberScope × TypeVariables)) (name : String) :
    (levels.flatMap (·.2)).lookup name =
      (levels.findSome? fun level => (level.2.lookup name).map (level.1, ·)).map (·.2) := by
  induction levels with
  | nil => rfl
  | cons level levels ih =>
    rw [List.flatMap_cons, List.lookup_append, ih, List.findSome?_cons]
    cases level.2.lookup name <;> rfl

/-- A name that is used in the scope itself is looked up among all variables as it is among the scopes. -/
theorem MemberScope.lookup_typeVariables (s : MemberScope) (name : String) :
    s.typeVariables.lookup name = (s.declared? name).map (·.2) := by
  rw [MemberScope.declared?, ← lookup_levels, MemberScope.levels, List.flatMap_cons, flatMap_typeLevels]
  rfl

lemma typeLevels_of_mem {vars : TypeVariables} (h : (scope, vars) ∈ typeLevels file chain) :
    scope.parameters = [] ∧ scope.type.file = file ∧
      ∀ level ∈ typeLevels file scope.type.chain, level ∈ typeLevels file chain := by
  induction chain with
  | nil => cases h
  | cons n chain ih =>
    rcases List.mem_cons.1 h with heq | hin
    · cases heq
      exact ⟨rfl, rfl, fun level hlevel => hlevel⟩
    · obtain ⟨hparameters, hfile, hsub⟩ := ih hin
      exact ⟨hparameters, hfile, fun level hlevel => List.mem_cons_of_mem _ (hsub level hlevel)⟩

namespace MemberScope

lemma exists_of_declared (h : s.declared? name = some (scope, bounds)) :
    ∃ vars : TypeVariables, (scope, vars) ∈ s.levels ∧ vars.lookup name = some bounds := by
  obtain ⟨⟨scope', vars⟩, hmem, hlevel⟩ := List.exists_of_findSome?_eq_some h
  obtain ⟨bounds', hlookup, heq⟩ := Option.map_eq_some_iff.1 hlevel
  cases heq
  exact ⟨vars, hmem, hlookup⟩

/-- The scopes around the scope of a declaration are around the place of use, too. -/
lemma levels_of_mem {vars : TypeVariables} (h : (scope, vars) ∈ s.levels) : scope.type.file = s.type.file ∧
    ∀ level ∈ scope.levels, level.2 ≠ [] → level ∈ s.levels := by
  rcases List.mem_cons.1 h with heq | hin
  · cases heq
    exact ⟨rfl, fun level hlevel _ => hlevel⟩
  · obtain ⟨hparameters, hfile, hsub⟩ := typeLevels_of_mem hin
    refine ⟨hfile, fun level hlevel hne => ?_⟩
    rcases List.mem_cons.1 hlevel with rfl | hlevel
    · simp [hparameters, Source.typeVariables] at hne
    · exact List.mem_cons_of_mem _ (hsub level (hfile ▸ hlevel))

end MemberScope

end Levels

/-! ## Erasure of one name -/

section Erasure

variable {vars : TypeVariables} {name : String}

lemma lookup_without_of_ne {other : String} (h : other ≠ name) : (vars.without name).lookup other = vars.lookup other := by
  induction vars with
  | nil => rfl
  | cons entry vars ih =>
    obtain ⟨key, bounds⟩ := entry
    rw [TypeVariables.without] at ih ⊢
    by_cases hkey : key = name
    · have hbeq : (other == key) = false := by simpa [hkey] using h
      rw [List.filter_cons_of_neg (by simpa using hkey), ih, List.lookup_cons, hbeq]
    · rw [List.filter_cons_of_pos (by simpa using hkey), List.lookup_cons, List.lookup_cons, ih]

lemma erase_named {t : TypeUse} (h : t.head = .named [name]) : erase vars t =
    match vars.lookup name with
    | none => ⟨some t.head, t.rank⟩
    | some [] => ⟨none, t.rank⟩
    | some (bound :: _) => ⟨(erase (vars.without name) bound).head?, (erase (vars.without name) bound).rank + t.rank⟩ := by
  rw [erase]
  split
  · rename_i name' hname
    obtain rfl : name' = name := by simpa [h] using hname.symm
    split <;> rename_i hlookup <;> rw [hlookup]
  · rename_i hother
    exact absurd h (hother name)

lemma erase_of_not_named {t : TypeUse} (h : ∀ name, t.head ≠ .named [name]) : erase vars t = ⟨some t.head, t.rank⟩ := by
  rw [erase]
  split
  · rename_i name hname
    exact absurd hname (h name)
  · rfl

@[simp] lemma erase_nil (t : TypeUse) : erase [] t = ⟨some t.head, t.rank⟩ := by
  by_cases hnamed : ∃ name, t.head = .named [name]
  · obtain ⟨name, hhead⟩ := hnamed
    rw [erase_named hhead]
    rfl
  · exact erase_of_not_named (not_exists.1 hnamed)

end Erasure

/-! ## From a variable to its bound -/

/-- The use of a type in a scope. -/
structure Place where
  scope : MemberScope
  use : TypeUse
  deriving DecidableEq, Repr

namespace Place

/-- The variable that is used, by the scope that declares it and its bounds. -/
def declaration? (p : Place) : Option (MemberScope × List TypeUse) :=
  match p.use.head with
  | .named [name] => p.scope.declared? name
  | _ => none

/-- The first bound of the variable that is used, in the scope that declares the variable. -/
def bound? (p : Place) : Option Place :=
  match p.declaration? with
  | some (scope, bound :: _) => some ⟨scope, bound⟩
  | _ => none

/-- What is used at the one place is a variable, and its first bound is at the other place. -/
def BoundedBy (p q : Place) : Prop :=
  p.bound? = some q

instance : DecidableRel BoundedBy :=
  fun p q => inferInstanceAs (Decidable (p.bound? = some q))

/-- No variable that one comes to from here is bounded by itself through other variables. -/
def IsAcyclic (p : Place) : Prop :=
  ∀ q, ReflTransGen BoundedBy p q → ¬TransGen BoundedBy q q

/-- What is used is, under lexical scoping, the given type: a type that is no variable is itself, in its own scope, and a
variable is the root of the class hierarchy or what its first bound is where the variable is declared. -/
inductive StandsFor : Place → ErasedType → MemberScope → Prop
  | type {p : Place} (h : p.declaration? = none) : StandsFor p ⟨some p.use.head, p.use.rank⟩ p.scope
  | root {p : Place} {scope : MemberScope} (h : p.declaration? = some (scope, [])) : StandsFor p ⟨none, p.use.rank⟩ scope
  | bound {p : Place} {scope outer : MemberScope} {bound : TypeUse} {bounds : List TypeUse} {e : ErasedType}
      (h : p.declaration? = some (scope, bound :: bounds)) (hbound : StandsFor ⟨scope, bound⟩ e outer) :
      StandsFor p { e with rank := e.rank + p.use.rank } outer

variable {p q : Place} {e e' : ErasedType} {scope outer outer' : MemberScope} {bounds : List TypeUse} {name : String}

lemma declaration_of_named (h : p.use.head = .named [name]) : p.declaration? = p.scope.declared? name := by
  rw [declaration?, h]

lemma exists_named_of_declaration (h : p.declaration? = some (scope, bounds)) :
    ∃ name, p.use.head = .named [name] ∧ p.scope.declared? name = some (scope, bounds) := by
  unfold declaration? at h
  split at h
  · rename_i name hhead
    exact ⟨name, hhead, h⟩
  · cases h

lemma boundedBy_of_declaration {bound : TypeUse} (h : p.declaration? = some (scope, bound :: bounds)) :
    p.BoundedBy ⟨scope, bound⟩ := by
  rw [BoundedBy, bound?, h]

lemma exists_declaration_of_boundedBy (h : p.BoundedBy q) :
    ∃ bounds, p.declaration? = some (q.scope, q.use :: bounds) := by
  unfold BoundedBy bound? at h
  split at h
  · rename_i scope bound bounds hdeclared
    cases h
    exact ⟨bounds, hdeclared⟩
  · cases h

namespace StandsFor

theorem unique (h : p.StandsFor e outer) (h' : p.StandsFor e' outer') : e = e' ∧ outer = outer' := by
  induction h generalizing e' outer' with
  | type hnone =>
    cases h' with
    | type => exact ⟨rfl, rfl⟩
    | root hsome => rw [hnone] at hsome; cases hsome
    | bound hsome => rw [hnone] at hsome; cases hsome
  | root hroot =>
    cases h' with
    | type hnone => rw [hroot] at hnone; cases hnone
    | root hother => rw [hroot] at hother; cases hother; exact ⟨rfl, rfl⟩
    | bound hother => rw [hroot] at hother; cases hother
  | bound hdeclared _ ih =>
    cases h' with
    | type hnone => rw [hdeclared] at hnone; cases hnone
    | root hother => rw [hdeclared] at hother; cases hother
    | bound hother hbound =>
      rw [hdeclared] at hother
      cases hother
      obtain ⟨rfl, rfl⟩ := ih hbound
      exact ⟨rfl, rfl⟩

/-- A type that is come to is used at one of the places on the way. -/
lemma exists_place (h : p.StandsFor e outer) {head : TypeHead} (hhead : e.head? = some head) :
    ∃ q, ReflTransGen BoundedBy p q ∧ q.declaration? = none ∧ q.use.head = head ∧ q.scope = outer := by
  induction h with
  | type hnone => exact ⟨_, .refl, hnone, Option.some.inj hhead, rfl⟩
  | root => cases hhead
  | bound hdeclared _ ih =>
    obtain ⟨q, hreach, hq⟩ := ih hhead
    exact ⟨q, hreach.head (boundedBy_of_declaration hdeclared), hq⟩

end StandsFor

/-! ## Every acyclic variable stands for a type -/

/-- The bounds of the variables that are known at a place, each where it is declared. -/
def around (p : Place) : List Place :=
  p.scope.levels.flatMap fun level => level.2.flatMap fun entry => entry.2.map fun bound => ⟨level.1, bound⟩

/-- One stays among the scopes around the place that one starts at. -/
lemma around_of_reaches (h : ReflTransGen BoundedBy p q) : (q = p ∨ q ∈ p.around) ∧
    q.scope.type.file = p.scope.type.file ∧ ∀ level ∈ q.scope.levels, level.2 ≠ [] → level ∈ p.scope.levels := by
  induction h with
  | refl => exact ⟨.inl rfl, rfl, fun level hlevel _ => hlevel⟩
  | @tail q r _ hbound ih =>
    obtain ⟨-, hfile, hlevels⟩ := ih
    obtain ⟨bounds, hdeclared⟩ := exists_declaration_of_boundedBy hbound
    obtain ⟨name, -, hdeclared⟩ := exists_named_of_declaration hdeclared
    obtain ⟨vars, hmem, hlookup⟩ := MemberScope.exists_of_declared hdeclared
    obtain ⟨hfile', hlevels'⟩ := MemberScope.levels_of_mem hmem
    have hentry : (name, r.use :: bounds) ∈ vars := by
      obtain ⟨front, back, rfl, -⟩ := List.lookup_eq_some_iff.1 hlookup
      simp
    have hlevel := hlevels _ hmem (List.ne_nil_of_mem hentry)
    refine ⟨.inr ?_, hfile'.trans hfile, fun level hin hne => hlevels level (hlevels' level hin hne) hne⟩
    exact List.mem_flatMap.2 ⟨_, hlevel, List.mem_flatMap.2 ⟨_, hentry, List.mem_map.2 ⟨_, List.mem_cons_self, rfl⟩⟩⟩

lemma finite_reached (p : Place) : Finite { q // ReflTransGen BoundedBy p q } := by
  refine ((p :: p.around).finite_toSet.subset fun q hq => ?_).to_subtype
  exact (around_of_reaches hq).1.elim (fun h => h ▸ List.mem_cons_self) (List.mem_cons_of_mem p)

/-- What is used is a type, or a variable that leads to one. -/
theorem IsAcyclic.exists_standsFor (h : p.IsAcyclic) : ∃ e outer, p.StandsFor e outer := by
  -- The places that are come to are finitely many, so that the way along the bounds ends.
  have hfinite := finite_reached p
  let after (r q : { q // ReflTransGen BoundedBy p q }) : Prop := TransGen BoundedBy q.1 r.1
  have htrans : IsTrans _ after := ⟨fun _ _ _ hba hcb => hcb.trans hba⟩
  have hirrefl : Std.Irrefl after := ⟨fun q => h q.1 q.2⟩
  suffices hall : ∀ q : { q // ReflTransGen BoundedBy p q }, ∃ e outer, q.1.StandsFor e outer from hall ⟨p, .refl⟩
  intro q
  induction q using (Finite.wellFounded_of_trans_of_irrefl after).induction with
  | _ q ih =>
    cases hdeclared : q.1.declaration? with
    | none => exact ⟨_, _, .type hdeclared⟩
    | some found =>
      obtain ⟨scope, bounds⟩ := found
      cases bounds with
      | nil => exact ⟨_, _, .root hdeclared⟩
      | cons bound bounds =>
        have hbound := boundedBy_of_declaration hdeclared
        obtain ⟨e, outer, hstands⟩ := ih ⟨⟨scope, bound⟩, q.2.tail hbound⟩ (.single hbound)
        exact ⟨_, _, .bound hdeclared hstands⟩

lemma isAcyclic_of_bound_eq_none (h : p.bound? = none) : p.IsAcyclic := by
  have hstop : ∀ q, ¬p.BoundedBy q := fun q hq => by
    rw [BoundedBy, h] at hq
    cases hq
  intro q hreach hcycle
  obtain rfl : q = p := (Relation.ReflTransGen.cases_head hreach).elim Eq.symm fun ⟨r, hr, _⟩ => (hstop r hr).elim
  obtain ⟨r, hr, -⟩ := Relation.TransGen.head'_iff.1 hcycle
  exact hstop r hr

lemma IsAcyclic.of_boundedBy (hbound : p.BoundedBy q) (h : q.IsAcyclic) : p.IsAcyclic := by
  have hnext : ∀ r, p.BoundedBy r → r = q := fun r hr => Option.some.inj (hr.symm.trans hbound)
  intro r hreach hcycle
  rcases Relation.ReflTransGen.cases_head hreach with rfl | ⟨q', hq', hreach⟩
  · -- A cycle at the start goes through the bound.
    obtain ⟨q', hq', hback⟩ := Relation.TransGen.head'_iff.1 hcycle
    rw [hnext q' hq'] at hback
    exact h q .refl (Relation.TransGen.tail' hback hbound)
  · rw [hnext q' hq'] at hreach
    exact h r hreach hcycle

lemma IsAcyclic.bound (h : p.IsAcyclic) (hbound : p.BoundedBy q) : q.IsAcyclic :=
  fun r hreach => h r (hreach.head hbound)

/-! ## Erasure among all variables of the place of use -/

/-- What is used at the place means the same in the given scope: it is the same variable there, or a type that no nested
type takes the place of. -/
structure MeansSame (index : Index) (s : MemberScope) (p : Place) : Prop where
  declaration : p.declaration? = declaration? ⟨s, p.use⟩
  nested : p.declaration? = none → ∀ parts, p.use.head = .named parts →
    index.nested? p.scope.type.chain (parts.headD "") = index.nested? s.type.chain (parts.headD "")

/-- Each name that one comes to from the place means the same there as it does in the given scope. -/
def KeepsNames (index : Index) (s : MemberScope) (p : Place) : Prop :=
  ∀ q, ReflTransGen BoundedBy p q → MeansSame index s q

variable {index : Index} {s : MemberScope}

lemma MeansSame.declared (h : MeansSame index s p) (hhead : p.use.head = .named [name]) :
    p.scope.declared? name = s.declared? name := by
  rw [← declaration_of_named hhead, h.declaration, declaration_of_named (p := ⟨s, p.use⟩) hhead]

lemma KeepsNames.bound (h : KeepsNames index s p) (hbound : p.BoundedBy q) : KeepsNames index s q :=
  fun r hreach => h r (hreach.head hbound)

lemma KeepsNames.of_boundedBy (hbound : p.BoundedBy q) (hhere : MeansSame index s p) (h : KeepsNames index s q) :
    KeepsNames index s p := by
  intro r hreach
  rcases Relation.ReflTransGen.cases_head hreach with rfl | ⟨q', hq', hreach⟩
  · exact hhere
  · cases Option.some.inj (hq'.symm.trans hbound)
    exact h r hreach

lemma KeepsNames.of_bound_eq_none (hbound : p.bound? = none) (hhere : MeansSame index s p) : KeepsNames index s p := by
  intro r hreach
  rcases Relation.ReflTransGen.cases_head hreach with rfl | ⟨q', hq', -⟩
  · exact hhere
  · cases hq'.symm.trans hbound

/-- What a variable stands for is found among variables that agree with the scopes on the way. -/
theorem StandsFor.erase_eq {vars : TypeVariables} (h : p.StandsFor e outer) (hacyclic : p.IsAcyclic)
    (hkeeps : KeepsNames index s p)
    (hvars : ∀ q, ReflTransGen BoundedBy p q → ∀ name, q.use.head = .named [name] →
      vars.lookup name = (q.scope.declared? name).map (·.2)) : erase vars p.use = e := by
  induction h generalizing vars with
  | @type p hnone =>
    by_cases hnamed : ∃ name, p.use.head = .named [name]
    · obtain ⟨name, hhead⟩ := hnamed
      rw [erase_named hhead, hvars p .refl name hhead, ← declaration_of_named hhead, hnone]
      rfl
    · exact erase_of_not_named (not_exists.1 hnamed)
  | @root p scope hroot =>
    obtain ⟨name, hhead, hdeclared⟩ := exists_named_of_declaration hroot
    rw [erase_named hhead, hvars p .refl name hhead, hdeclared]
    rfl
  | @bound p scope outer bound bounds e hsome hstands ih =>
    obtain ⟨name, hhead, hdeclared⟩ := exists_named_of_declaration hsome
    have hbound := boundedBy_of_declaration hsome
    have hlookup : vars.lookup name = some (bound :: bounds) := by
      rw [hvars p .refl name hhead, hdeclared, Option.map_some]
    have herase : erase (vars.without name) bound = e := by
      refine ih (hacyclic.bound hbound) (hkeeps.bound hbound) fun q hreach other hother => ?_
      have hne : other ≠ name := by
        -- The variable would be the one that is left out, so that it came to be bounded by itself.
        rintro rfl
        have hq : q.declaration? = some (scope, bound :: bounds) := by
          rw [declaration_of_named hother, (hkeeps q (hreach.head hbound)).declared hother,
            ← (hkeeps p .refl).declared hhead, hdeclared]
        exact hacyclic ⟨scope, bound⟩ (.single hbound) (Relation.TransGen.tail' hreach (boundedBy_of_declaration hq))
      rw [lookup_without_of_ne hne, hvars q (hreach.head hbound) other hother]
    simp only [erase_named hhead, hlookup, herase]

end Place

/-! ## Names of variables -/

section Names

variable {σ : Type} {index : Index} {probe : Probe σ}

/-- A type that is no variable has the same name in two types of a file if the same nested type is found from both. -/
lemma typeName_congr {s t : SourceType} {head : TypeHead} (rank : Nat) (hfile : s.file = t.file)
    (hnested : ∀ parts, head = .named parts →
      index.nested? s.chain (parts.headD "") = index.nested? t.chain (parts.headD "")) :
    typeName index probe s [] ⟨head, rank⟩ = typeName index probe t [] ⟨head, rank⟩ := by
  unfold typeName
  dsimp only
  rw [erase_nil]
  cases head with
  | basic name => rfl
  | named parts =>
    have hresolve : resolveName index probe s parts = resolveName index probe t parts := by
      simp only [resolveName, resolveSimple, Index.resolve?, hfile, hnested parts rfl]
    dsimp only
    rw [hresolve]

lemma typeName_of_erase {scope : SourceType} {vars : TypeVariables} {t : TypeUse} {e : ErasedType}
    (h : erase vars t = e) : typeName index probe scope vars t =
      match e.head? with
      | none => pure (Java.objectClass ++ Java.TypeName.brackets e.rank)
      | some head => typeName index probe scope [] ⟨head, e.rank⟩ := by
  unfold typeName
  dsimp only
  rw [h]
  cases hhead : e.head? with
  | none => rfl
  | some head =>
    dsimp only
    rw [erase_nil]

lemma typeName_simple {scope : SourceType} {vars : TypeVariables} {name : String} (rank : Nat)
    (h : vars.lookup name = none) : typeName index probe scope vars ⟨.named [name], rank⟩ =
      resolveName index probe scope [name] >>= fun resolved => pure (resolved ++ Java.TypeName.brackets rank) := by
  have herase : erase vars ⟨.named [name], rank⟩ = ⟨some (.named [name]), rank⟩ := by
    rw [erase_named rfl, h]
  unfold typeName
  dsimp only
  rw [herase]

lemma resolveName_of_resolve {scope : SourceType} {name resolved : String}
    (hcase : name.toList.head?.any Text.isLower = false) (h : index.resolve? scope name = some resolved) :
    resolveName index probe scope [name] = pure resolved := by
  have hwhole : Java.nestedName [resolved] [] = resolved := by simp [Java.nestedName]
  simp only [resolveName, List.headD_cons, hcase, Bool.false_eq_true, if_false, resolveSimple, h, List.tail_cons,
    pure_bind, hwhole]

/-- The use of a type in a member stands for one type under lexical scoping if no variable is bounded by itself through
other variables. It has the name of that type, if each name on the way to it means the same where it stands as it does
in the member. -/
theorem typeName_eq_of_standsFor (index : Index) (probe : Probe σ) (s : MemberScope) (use : TypeUse)
    (hacyclic : Place.IsAcyclic ⟨s, use⟩) (hkeeps : Place.KeepsNames index s ⟨s, use⟩) :
    ∃ e scope, Place.StandsFor ⟨s, use⟩ e scope ∧
      (∀ e' scope', Place.StandsFor ⟨s, use⟩ e' scope' → e' = e ∧ scope' = scope) ∧
      typeName index probe s.type s.typeVariables use =
        match e.head? with
        | none => pure (Java.objectClass ++ Java.TypeName.brackets e.rank)
        | some head => typeName index probe scope.type [] ⟨head, e.rank⟩ := by
  obtain ⟨e, scope, hstands⟩ := hacyclic.exists_standsFor
  have herase : erase s.typeVariables use = e := by
    refine hstands.erase_eq hacyclic hkeeps fun q hreach name hhead => ?_
    rw [s.lookup_typeVariables, (hkeeps q hreach).declared hhead]
  refine ⟨e, scope, hstands, fun e' scope' h' => h'.unique hstands, ?_⟩
  rw [typeName_of_erase herase]
  cases hhead : e.head? with
  | none => rfl
  | some head =>
    obtain ⟨q, hreach, hnone, rfl, rfl⟩ := hstands.exists_place hhead
    have hfile := (Place.around_of_reaches hreach).2.1
    exact typeName_congr e.rank hfile.symm fun parts hparts => ((hkeeps q hreach).nested hnone parts hparts).symm

/-- The class `p.A` with the type parameters `U extends Number` and `T extends U`. -/
def chainedType : SourceType where
  name := "p.A"
  header := { kind := .classType, name := "A"
              typeParameters := [⟨"U", [{ head := .named ["Number"] }]⟩, ⟨"T", [{ head := .named ["U"] }]⟩] }
  file := { package := "p" }

/-- The class `B` in it with the type parameter `V extends T`. -/
def chainedNested : SourceType where
  name := "p.A$B"
  header := { kind := .classType, name := "B", typeParameters := [⟨"V", [{ head := .named ["T"] }]⟩] }
  enclosing := [chainedType.toNamedType]
  file := { package := "p" }

/-- The index of the two classes. -/
def chainedIndex : Index :=
  ⟨[chainedNested, chainedType]⟩

/-- No class is known elsewhere. -/
def knowsNone : Probe Unit :=
  fun _ => pure false

lemma typeName_number (rank : Nat) (session : Session Unit) :
    typeName chainedIndex knowsNone chainedType [] ⟨.named ["Number"], rank⟩ session =
      .ok ("java.lang.Number" ++ Java.TypeName.brackets rank) session := by
  have hresolved : resolveName chainedIndex knowsNone chainedType ["Number"] = pure "java.lang.Number" :=
    resolveName_of_resolve (by decide +kernel) (by decide +kernel)
  rw [typeName_simple rank rfl, hresolved, pure_bind]
  rfl

/-- The bound of `T` where it is declared. -/
def chainedBound : Place :=
  ⟨⟨chainedType, []⟩, { head := .named ["U"] }⟩

/-- The bound of `U` where it is declared. -/
def chainedNumber : Place :=
  ⟨⟨chainedType, []⟩, { head := .named ["Number"] }⟩

lemma chainedBound_boundedBy : chainedBound.BoundedBy chainedNumber := by
  decide +kernel

lemma bound_chainedNumber : chainedNumber.bound? = none := by
  decide +kernel

lemma chainedBound_isAcyclic : chainedBound.IsAcyclic :=
  .of_boundedBy chainedBound_boundedBy (Place.isAcyclic_of_bound_eq_none bound_chainedNumber)

lemma chainedBound_standsFor : chainedBound.StandsFor ⟨some (.named ["Number"]), 0⟩ ⟨chainedType, []⟩ :=
  Place.StandsFor.bound (p := chainedBound) rfl (.type (p := chainedNumber) rfl)

/-- An array of `V` in `B` is an array of numbers. -/
theorem typeName_eq_of_standsFor_chained :
    let use : Place := ⟨⟨chainedNested, []⟩, ⟨.named ["V"], 1⟩⟩
    use.IsAcyclic ∧ Place.KeepsNames chainedIndex use.scope use ∧
    use.StandsFor ⟨some (.named ["Number"]), 1⟩ ⟨chainedType, []⟩ ∧
    ∀ session, typeName chainedIndex knowsNone use.scope.type use.scope.typeVariables use.use session =
      .ok "java.lang.Number[]" session := by
  intro use
  let first : Place := ⟨⟨chainedNested, []⟩, { head := .named ["T"] }⟩
  have hfirst : use.BoundedBy first := by decide +kernel
  have hsecond : first.BoundedBy chainedBound := by decide +kernel
  have hacyclic : use.IsAcyclic := .of_boundedBy hfirst (.of_boundedBy hsecond chainedBound_isAcyclic)
  have hsame : ∀ p : Place, p.declaration? ≠ none → p.declaration? = Place.declaration? ⟨use.scope, p.use⟩ →
      Place.MeansSame chainedIndex use.scope p := fun p hne heq => ⟨heq, fun hnone => absurd hnone hne⟩
  have hnumber : Place.MeansSame chainedIndex use.scope chainedNumber := by
    refine ⟨by decide +kernel, fun _ parts hparts => ?_⟩
    cases hparts
    decide +kernel
  have hkeeps : Place.KeepsNames chainedIndex use.scope use :=
    .of_boundedBy hfirst (hsame _ (by decide +kernel) (by decide +kernel)) <|
    .of_boundedBy hsecond (hsame _ (by decide +kernel) (by decide +kernel)) <|
    .of_boundedBy chainedBound_boundedBy (hsame _ (by decide +kernel) (by decide +kernel)) <|
    .of_bound_eq_none bound_chainedNumber hnumber
  have hstands : use.StandsFor ⟨some (.named ["Number"]), 1⟩ ⟨chainedType, []⟩ :=
    Place.StandsFor.bound (p := use) rfl (.bound (p := first) rfl chainedBound_standsFor)
  refine ⟨hacyclic, hkeeps, hstands, fun session => ?_⟩
  obtain ⟨e, scope, -, hunique, hname⟩ :=
    typeName_eq_of_standsFor chainedIndex knowsNone use.scope use.use hacyclic hkeeps
  obtain ⟨rfl, rfl⟩ := hunique _ _ hstands
  have htext : "java.lang.Number" ++ Java.TypeName.brackets 1 = "java.lang.Number[]" := by decide +kernel
  exact (congrFun hname session).trans (htext ▸ typeName_number 1 session)

/-- In a method of `A` with the type parameter `U extends T`, `U` is a number by way of `T` and the `U` of `A`. It gets the
name of a class `U` of the package instead, as the `U` of `A` is not among the variables next to that of the method. -/
theorem typeName_of_shadowed_bound :
    let s : MemberScope := ⟨chainedType, [⟨"U", [{ head := .named ["T"] }]⟩]⟩
    Place.IsAcyclic ⟨s, { head := .named ["U"] }⟩ ∧
    Place.StandsFor ⟨s, { head := .named ["U"] }⟩ ⟨some (.named ["Number"]), 0⟩ ⟨chainedType, []⟩ ∧
    ∀ session,
      typeName chainedIndex knowsNone chainedType [] { head := .named ["Number"] } session =
        .ok "java.lang.Number" session ∧
      typeName chainedIndex knowsNone s.type s.typeVariables { head := .named ["U"] } session = .ok "p.U" session := by
  intro s
  let use : Place := ⟨s, { head := .named ["U"] }⟩
  let first : Place := ⟨s, { head := .named ["T"] }⟩
  have hfirst : use.BoundedBy first := by decide +kernel
  have hsecond : first.BoundedBy chainedBound := by decide +kernel
  refine ⟨.of_boundedBy hfirst (.of_boundedBy hsecond chainedBound_isAcyclic), ?_, fun session => ⟨?_, ?_⟩⟩
  · exact Place.StandsFor.bound (p := use) rfl (.bound (p := first) rfl chainedBound_standsFor)
  · have htext : "java.lang.Number" ++ Java.TypeName.brackets 0 = "java.lang.Number" := by decide +kernel
    exact htext ▸ typeName_number 0 session
  · have hown : s.typeVariables.lookup "U" = some [{ head := .named ["T"] }] := by decide +kernel
    have hbound : (s.typeVariables.without "U").lookup "T" = some [{ head := .named ["U"] }] := by decide +kernel
    have hgone : ((s.typeVariables.without "U").without "T").lookup "U" = none := by decide +kernel
    have herase : erase s.typeVariables { head := .named ["U"] } = ⟨some (.named ["U"]), 0⟩ := by
      rw [erase_named rfl, hown]
      dsimp only
      rw [erase_named rfl, hbound]
      dsimp only
      rw [erase_named rfl, hgone]
    rw [typeName_of_erase herase]
    dsimp only
    rw [typeName_simple 0 rfl]
    rfl

end Names

end Typings.Source
