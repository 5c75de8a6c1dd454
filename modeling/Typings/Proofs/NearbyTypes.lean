import Mathlib.Data.List.Chain
import Typings.Proofs.CanonicalNames
import Typings.Proofs.ScopedVariables

/-!
# Simple names of types nearby

A type is indexed under the name of the type around it or of its package. A simple name in the scope of a type is looked
for under the names of the types around the scope and then in the package. It comes to a type that is nested in one of
those types or stands in the package, unless it starts with a lower-case letter or is found further inside.
-/

namespace Typings.Source

/-! ## Names in a chain of types -/

/-- Each type of a chain has its name from the type around it, and the outermost one from the package. -/
structure ChainNamed (file : FileScope) (chain : List NamedType) : Prop where
  nested : chain.IsChain fun n o => n.name = o.name ++ "$" ++ n.header.name
  top : ∀ n ∈ chain.getLast?, n.name = file.qualify n.header.name

/-- The type is of the file, and the types around it lead to its name. -/
structure SourceType.IsNamedIn (t : SourceType) (file : FileScope) : Prop where
  file_eq : t.file = file
  chain : ChainNamed file t.chain

section Chains

variable {file : FileScope} {enclosing chain : List NamedType} {t : SourceType} {n o : NamedType}

lemma ChainNamed.singleton (h : n.name = file.qualify n.header.name) : ChainNamed file [n] :=
  ⟨.singleton n, fun _ hm => by cases hm; exact h⟩

lemma ChainNamed.cons (h : ChainNamed file (o :: enclosing)) (hname : n.name = o.name ++ "$" ++ n.header.name) :
    ChainNamed file (n :: o :: enclosing) := by
  refine ⟨.cons_cons hname h.nested, fun m hm => h.top m ?_⟩
  rwa [List.getLast?_cons_cons] at hm

mutual

theorem isNamedIn_of_mem_typesIn (name : String) (enclosing : List NamedType) : ∀ d : TypeDeclaration,
    ChainNamed file (⟨name, d.header⟩ :: enclosing) → t ∈ typesIn file enclosing name d → t.IsNamedIn file
  | .mk header nested, hchain, h => by
    rw [typesIn, List.mem_cons] at h
    rcases h with rfl | h
    · exact ⟨rfl, hchain⟩
    · exact isNamedIn_of_mem_typesNestedIn ⟨name, header⟩ enclosing nested hchain h

theorem isNamedIn_of_mem_typesNestedIn (o : NamedType) (enclosing : List NamedType) : ∀ ds : List TypeDeclaration,
    ChainNamed file (o :: enclosing) → t ∈ typesNestedIn file (o :: enclosing) o.name ds → t.IsNamedIn file
  | [], _, h => by cases h
  | .mk header nested :: ds, hchain, h => by
    rw [typesNestedIn, List.mem_append] at h
    rcases h with h | h
    · exact isNamedIn_of_mem_typesIn _ _ (.mk header nested) (hchain.cons rfl) h
    · exact isNamedIn_of_mem_typesNestedIn o enclosing ds hchain h

end

/-- Every indexed type is of one of the files, and the types around it lead to its name. -/
theorem exists_isNamedIn_of_mem {units : List CompilationUnit} (h : t ∈ (Index.ofUnits units).types) :
    ∃ u ∈ units, t.IsNamedIn (.ofUnit u) := by
  obtain ⟨u, hu, ht⟩ := mem_types_ofUnits.1 h
  obtain ⟨d, -, ht⟩ := List.mem_flatMap.1 ht
  exact ⟨u, hu, isNamedIn_of_mem_typesIn _ [] d (.singleton rfl) ht⟩

namespace SourceType.IsNamedIn

lemma name_of_nested (h : t.IsNamedIn file) (ho : t.enclosing.head? = some o) :
    t.name = o.name ++ "$" ++ t.header.name := by
  obtain ⟨enclosing, henclosing⟩ := List.head?_eq_some_iff.1 ho
  have hchain := h.chain.nested
  rw [SourceType.chain, henclosing] at hchain
  exact (List.isChain_cons_cons.1 hchain).1

lemma name_of_top (h : t.IsNamedIn file) (htop : t.enclosing = []) : t.name = file.qualify t.header.name := by
  refine h.chain.top t.toNamedType ?_
  rw [SourceType.chain, htop]
  rfl

/-- A type further inside has a longer name. -/
lemma name_ne {inner outer : List NamedType} (h : t.IsNamedIn file) (hsplit : t.chain = inner ++ o :: outer)
    (hn : n ∈ inner) : n.name ≠ o.name := by
  have hpairwise : t.chain.Pairwise fun n o => o.name.length < n.name.length := by
    refine (h.chain.nested.imp fun n o hname => ?_).pairwise
    rw [hname]
    simp only [String.length_append]
    have : "$".length = 1 := rfl
    omega
  rw [hsplit] at hpairwise
  have hlength := (List.pairwise_append.1 hpairwise).2.2 n hn o List.mem_cons_self
  exact fun heq => absurd (heq ▸ hlength) (Nat.lt_irrefl _)

end SourceType.IsNamedIn

end Chains

/-! ## Looking for a simple name -/

/-- Whether the name starts with a lower-case letter, so that it is taken for a canonical name. -/
def isLowered (name : String) : Bool :=
  name.toList.head?.any Text.isLower

/-- Whether a type is indexed under the name that a type nested in the given one has. -/
def Index.hasNested (index : Index) (n : NamedType) (name : String) : Bool :=
  index.contains (n.name ++ "$" ++ name)

section Lookup

variable {σ : Type} {index : Index} {probe : Probe σ} {scope : SourceType} {vars : TypeVariables} {session : Session σ}
  {name resolved : String} {inner outer chain : List NamedType} {n o : NamedType} {file : FileScope}

lemma nested?_eq_none : index.nested? chain name = none ↔ ∀ n ∈ chain, index.hasNested n name = false := by
  simp only [Index.nested?, List.find?_eq_none, List.forall_mem_map, Bool.not_eq_true]
  rfl

lemma exists_of_nested? (h : index.nested? chain name = some resolved) :
    ∃ n ∈ chain, index.hasNested n name = true ∧ resolved = n.name ++ "$" ++ name := by
  obtain ⟨n, hn, rfl⟩ := List.mem_map.1 (List.mem_of_find?_eq_some h)
  have hcontains : index.contains (n.name ++ "$" ++ name) = true := List.find?_some (p := index.contains) h
  exact ⟨n, hn, hcontains, rfl⟩

lemma nested?_append : index.nested? (inner ++ chain) name = (index.nested? inner name <|> index.nested? chain name) := by
  simp only [Index.nested?, List.map_append, List.find?_append, Option.orElse_eq_orElse, Option.orElse_eq_or]

lemma nested?_cons_of_hasNested (h : index.hasNested o name = true) :
    index.nested? (o :: outer) name = some (o.name ++ "$" ++ name) := by
  have hcontains : index.contains (o.name ++ "$" ++ name) = true := h
  rw [Index.nested?, List.map_cons, List.find?_cons_of_pos hcontains]

lemma binaryName_of_dot_notMem (hdot : '.' ∉ name.toList) : index.binaryName name = name := by
  have hsegments : Java.segments name = [name] := Text.splitAt_of_notMem hdot
  have hwhole : Java.nestedName [name] [] = name := by simp [Java.nestedName]
  have hnames : Index.binaryNames name = [name] := by
    rw [Index.binaryNames, hsegments]
    simp [hwhole]
  have hconventional : Java.conventionalBinaryName name = name := by
    rw [Java.conventionalBinaryName, hsegments, Java.splitAtCapital]
    split_ifs
    · exact hwhole
    · rfl
  rw [Index.binaryName, Index.binaryName?, hnames, hconventional, List.find?_singleton]
  split_ifs <;> rfl

lemma resolveName_of_lowered (hlowered : isLowered name = true) (hdot : '.' ∉ name.toList) :
    resolveName index probe scope [name] = pure name := by
  have hbinary : index.binaryName (".".intercalate [name]) = name := by
    rw [String.intercalate_singleton, binaryName_of_dot_notMem hdot]
  rw [isLowered] at hlowered
  simp only [resolveName, List.headD_cons, hlowered, if_true, hbinary]

/-- Once a simple name is resolved, its use comes to the name of a type exactly if it is resolved to that type, and the
session stays as it is. -/
lemma typeName_eq_iff {session' : Session σ} (hvars : vars.lookup name = none) (rank : Nat)
    (h : resolveName index probe scope [name] = pure resolved) (expected : String) :
    typeName index probe scope vars ⟨.named [name], rank⟩ session = .ok (expected ++ Java.TypeName.brackets rank) session' ↔
      session' = session ∧ resolved = expected := by
  rw [typeName_simple rank hvars, h, pure_bind]
  constructor
  · intro heq
    obtain ⟨hname, hsession⟩ := EStateM.Result.ok.inj heq
    exact ⟨hsession.symm, (String.append_left_inj _).1 hname⟩
  · rintro ⟨rfl, rfl⟩
    rfl

lemma resolve?_of_nested (h : index.nested? scope.chain name = some resolved) :
    index.resolve? scope name = some resolved := by
  rw [Index.resolve?, h]
  rfl

lemma resolve?_of_package (hnested : index.nested? scope.chain name = none)
    (hsingle : scope.file.single.lookup name = none) (hthere : index.contains (scope.file.qualify name) = true) :
    index.resolve? scope name = some (scope.file.qualify name) := by
  simp [Index.resolve?, hnested, hsingle, hthere]

lemma ne_append_append {sep : String} (hsep : 0 < sep.length) (outer name : String) : name ≠ outer ++ sep ++ name := by
  intro heq
  have hlength := congrArg String.length heq
  simp only [String.length_append] at hlength
  omega

/-- A name in the package is not that of a nested type. -/
lemma qualify_ne (file : FileScope) (outer name : String) : file.qualify name ≠ outer ++ "$" ++ name := by
  intro heq
  unfold FileScope.qualify at heq
  split at heq
  · exact ne_append_append (by decide) outer name heq
  · have hlead := congrArg (fun s => s.toList.getLast?) ((String.append_left_inj _).1 heq)
    simp at hlead

end Lookup

/-! ## Types nearby -/

section Nearby

variable {σ : Type} {index : Index} (probe : Probe σ) {s t : SourceType}

lemma contains_of_mem (ht : t ∈ index.types) : index.contains t.name = true := by
  rw [Index.contains, Index.find?, List.find?_isSome]
  exact ⟨t, ht, by simp⟩

variable (ht : t ∈ index.types) (hdot : '.' ∉ t.header.name.toList)
include ht hdot

/-- A type that is nested in a type around the scope is found from there unless a name further inside is. -/
lemma exists_resolveName_nested {file : FileScope} {o : NamedType} {inner outer : List NamedType} (hs : s.IsNamedIn file)
    (hname : t.name = o.name ++ "$" ++ t.header.name) (hsplit : s.chain = inner ++ o :: outer) :
    ∃ resolved, resolveName index probe s [t.header.name] = pure resolved ∧
      (resolved = t.name ↔
        isLowered t.header.name = false ∧ ∀ n ∈ inner, index.hasNested n t.header.name = false) := by
  cases hlowered : isLowered t.header.name with
  | true =>
    refine ⟨_, resolveName_of_lowered hlowered hdot, ?_⟩
    rw [hname]
    exact iff_of_false (ne_append_append (by decide) _ _) fun h => Bool.noConfusion h.1
  | false =>
    cases hinner : index.nested? inner t.header.name with
    | none =>
      have hthere : index.hasNested o t.header.name = true := by
        rw [Index.hasNested, ← hname]
        exact contains_of_mem ht
      have hnested : index.nested? s.chain t.header.name = some t.name := by
        rw [hsplit, nested?_append, hinner, nested?_cons_of_hasNested hthere, hname]
        rfl
      exact ⟨_, resolveName_of_resolve hlowered (resolve?_of_nested hnested),
        iff_of_true rfl ⟨rfl, nested?_eq_none.1 hinner⟩⟩
    | some found =>
      obtain ⟨n, hn, hthere, rfl⟩ := exists_of_nested? hinner
      have hnested : index.nested? s.chain t.header.name = some (n.name ++ "$" ++ t.header.name) := by
        rw [hsplit, nested?_append, hinner]
        rfl
      refine ⟨_, resolveName_of_resolve hlowered (resolve?_of_nested hnested), iff_of_false (fun heq => ?_) fun h => ?_⟩
      · rw [hname] at heq
        exact hs.name_ne hsplit hn ((String.append_left_inj _).1 ((String.append_left_inj _).1 heq))
      · rw [h.2 n hn] at hthere
        cases hthere

/-- A type of the package is found from a scope unless a name of a nested type is. -/
lemma exists_resolveName_package (hname : t.name = s.file.qualify t.header.name)
    (hsingle : s.file.single.lookup t.header.name = none) :
    ∃ resolved, resolveName index probe s [t.header.name] = pure resolved ∧
      (resolved = t.name ↔
        (isLowered t.header.name = true → s.file.package = "") ∧
          (isLowered t.header.name = false → ∀ n ∈ s.chain, index.hasNested n t.header.name = false)) := by
  cases hlowered : isLowered t.header.name with
  | true =>
    refine ⟨_, resolveName_of_lowered hlowered hdot, ?_⟩
    rw [hname, FileScope.qualify]
    by_cases hunnamed : s.file.package = ""
    · simp [hunnamed]
    · rw [if_neg hunnamed]
      exact iff_of_false (ne_append_append (by decide) _ _) fun h => hunnamed (h.1 rfl)
  | false =>
    cases hnested : index.nested? s.chain t.header.name with
    | none =>
      have hthere : index.contains (s.file.qualify t.header.name) = true := hname ▸ contains_of_mem ht
      exact ⟨_, resolveName_of_resolve hlowered (resolve?_of_package hnested hsingle hthere),
        iff_of_true hname.symm ⟨fun h => Bool.noConfusion h, fun _ => nested?_eq_none.1 hnested⟩⟩
    | some found =>
      obtain ⟨n, hn, hthere, rfl⟩ := exists_of_nested? hnested
      refine ⟨_, resolveName_of_resolve hlowered (resolve?_of_nested hnested), iff_of_false (fun heq => ?_) fun h => ?_⟩
      · exact qualify_ne _ _ _ (hname.symm.trans heq.symm)
      · rw [h.2 rfl n hn] at hthere
        cases hthere

end Nearby

/-- The simple name of an indexed type has no character that the names in the files do not have. -/
lemma notMem_of_mem_types {units : List CompilationUnit} {c : Char} (havoid : ∀ u ∈ units, u.NamesAvoid c) {t : SourceType}
    (h : t ∈ (Index.ofUnits units).types) : c ∉ t.header.name.toList := by
  obtain ⟨u, hu, ht⟩ := mem_types_ofUnits.1 h
  obtain ⟨names, hdeclares, -⟩ := u.declares_of_mem_sourceTypes ht
  have hmem : t.header.name ∈ names := by
    obtain ⟨d, -, hname⟩ := hdeclares
    exact hname.name_mem
  exact havoid u hu names _ hdeclares _ hmem

/-- The use of the simple name of a type, where no type variable has that name, comes to the binary name of the type and to
some session exactly if the session stays as it was and,

* where the type is nested in the scope or in a type around it, the name does not start with a lower-case letter, and no
  type is indexed under the name that one nested further inside has;
* where the type is at the top level of the package and no import of a single type covers it, the name starts with a
  lower-case letter and the package is the unnamed one, or it does not and no type is indexed under the name that one nested
  in the scope or around it has. -/
theorem typeName_nearby_iff {units : List CompilationUnit} (hdot : ∀ u ∈ units, u.NamesAvoid '.') {σ : Type}
    (probe : Probe σ) {s t : SourceType} (hs : s ∈ (Index.ofUnits units).types) (ht : t ∈ (Index.ofUnits units).types)
    {vars : TypeVariables} (hvars : vars.lookup t.header.name = none) (rank : Nat) (session session' : Session σ) :
    (∀ inner o outer, s.chain = inner ++ o :: outer → t.enclosing.head?.map (·.name) = some o.name →
      (typeName (Index.ofUnits units) probe s vars ⟨.named [t.header.name], rank⟩ session =
          .ok (t.name ++ Java.TypeName.brackets rank) session' ↔
        session' = session ∧ isLowered t.header.name = false ∧
          ∀ n ∈ inner, (Index.ofUnits units).hasNested n t.header.name = false)) ∧
    (t.enclosing = [] → t.file.package = s.file.package → s.file.single.lookup t.header.name = none →
      (typeName (Index.ofUnits units) probe s vars ⟨.named [t.header.name], rank⟩ session =
          .ok (t.name ++ Java.TypeName.brackets rank) session' ↔
        session' = session ∧ (isLowered t.header.name = true → s.file.package = "") ∧
          (isLowered t.header.name = false →
            ∀ n ∈ s.chain, (Index.ofUnits units).hasNested n t.header.name = false))) := by
  have hplain : '.' ∉ t.header.name.toList := notMem_of_mem_types hdot ht
  obtain ⟨u, -, hsnamed⟩ := exists_isNamedIn_of_mem hs
  obtain ⟨v, -, htnamed⟩ := exists_isNamedIn_of_mem ht
  refine ⟨fun inner o outer hsplit ho => ?_, fun htop hpackage hsingle => ?_⟩
  · obtain ⟨o', ho', heq⟩ := Option.map_eq_some_iff.1 ho
    have hnested : t.name = o.name ++ "$" ++ t.header.name := heq ▸ htnamed.name_of_nested ho'
    obtain ⟨resolved, hresolved, hiff⟩ := exists_resolveName_nested probe ht hplain hsnamed hnested hsplit
    rw [typeName_eq_iff hvars rank hresolved, hiff]
  · have hqualified : t.name = s.file.qualify t.header.name := by
      rw [htnamed.name_of_top htop, ← htnamed.file_eq, FileScope.qualify, FileScope.qualify, hpackage]
    obtain ⟨resolved, hresolved, hiff⟩ := exists_resolveName_package probe ht hplain hqualified hsingle
    rw [typeName_eq_iff hvars rank hresolved, hiff]

/-- A file with the class `p.A` and, nested in it, the classes `T`, `node`, `B` and `B$T`. -/
def nearbyUnit : CompilationUnit where
  package := ["p"]
  types := [.mk { kind := .classType, name := "A" }
    (["T", "node", "B", "B$T"].map fun name => .mk { kind := .classType, name := name } [])]

lemma namesAvoid_nearbyUnit : ∀ u ∈ [nearbyUnit], u.NamesAvoid '.' := by
  rw [List.forall_mem_singleton]
  simp [CompilationUnit.namesAvoid_iff, TypeDeclaration.namesAvoid_mk, nearbyUnit]

/-- The class `p.A`. -/
def nearbyTop : SourceType where
  name := "p.A"
  header := { kind := .classType, name := "A" }
  file := { package := "p" }

/-- A class that is nested in it. -/
def nearbyNested (name : String) : SourceType where
  name := "p.A$" ++ name
  header := { kind := .classType, name := name }
  enclosing := [nearbyTop.toNamedType]
  file := { package := "p" }

lemma types_nearbyUnit : (Index.ofUnits [nearbyUnit]).types =
    [nearbyNested "B$T", nearbyNested "B", nearbyNested "node", nearbyNested "T", nearbyTop] := by
  decide +kernel

/-- From `T`, the simple names `B` and `A` lead to the classes of these names. -/
theorem typeName_nearby_iff_nested :
    (∀ u ∈ [nearbyUnit], u.NamesAvoid '.') ∧ nearbyNested "T" ∈ (Index.ofUnits [nearbyUnit]).types ∧
    nearbyNested "B" ∈ (Index.ofUnits [nearbyUnit]).types ∧ nearbyTop ∈ (Index.ofUnits [nearbyUnit]).types ∧
    ∀ session,
      typeName (Index.ofUnits [nearbyUnit]) knowsNone (nearbyNested "T") [] ⟨.named ["B"], 2⟩ session =
        .ok ("p.A$B" ++ Java.TypeName.brackets 2) session ∧
      typeName (Index.ofUnits [nearbyUnit]) knowsNone (nearbyNested "T") [] ⟨.named ["A"], 1⟩ session =
        .ok ("p.A" ++ Java.TypeName.brackets 1) session := by
  have hscope : nearbyNested "T" ∈ (Index.ofUnits [nearbyUnit]).types := by simp [types_nearbyUnit]
  have hnested : nearbyNested "B" ∈ (Index.ofUnits [nearbyUnit]).types := by simp [types_nearbyUnit]
  have htop : nearbyTop ∈ (Index.ofUnits [nearbyUnit]).types := by simp [types_nearbyUnit]
  refine ⟨namesAvoid_nearbyUnit, hscope, hnested, htop, fun session => ⟨?_, ?_⟩⟩
  · have hvars : ([] : TypeVariables).lookup (nearbyNested "B").header.name = none := rfl
    have hiff := (typeName_nearby_iff namesAvoid_nearbyUnit knowsNone hscope hnested hvars 2 session session).1
      [(nearbyNested "T").toNamedType] nearbyTop.toNamedType [] rfl rfl
    exact hiff.2 ⟨rfl, by decide +kernel, by decide +kernel⟩
  · have hvars : ([] : TypeVariables).lookup nearbyTop.header.name = none := rfl
    have hiff := (typeName_nearby_iff namesAvoid_nearbyUnit knowsNone hscope htop hvars 1 session session).2 rfl rfl rfl
    exact hiff.2 ⟨rfl, by decide +kernel, by decide +kernel⟩

/-- From `B`, the simple name `node` is not resolved, and `T` leads to `B$T` although no class of the name `T` is in `B`. -/
theorem typeName_nearby_missed :
    (∀ u ∈ [nearbyUnit], u.NamesAvoid '.') ∧ nearbyNested "B" ∈ (Index.ofUnits [nearbyUnit]).types ∧
    nearbyNested "node" ∈ (Index.ofUnits [nearbyUnit]).types ∧ nearbyNested "T" ∈ (Index.ofUnits [nearbyUnit]).types ∧
    (∀ t ∈ (Index.ofUnits [nearbyUnit]).types, t.header.name = "T" → t = nearbyNested "T") ∧
    ∀ session,
      typeName (Index.ofUnits [nearbyUnit]) knowsNone (nearbyNested "B") [] { head := .named ["node"] } session =
        .ok "node" session ∧
      typeName (Index.ofUnits [nearbyUnit]) knowsNone (nearbyNested "B") [] { head := .named ["T"] } session =
        .ok "p.A$B$T" session := by
  refine ⟨namesAvoid_nearbyUnit, by simp [types_nearbyUnit], by simp [types_nearbyUnit], by simp [types_nearbyUnit],
    by decide +kernel, fun session => ⟨?_, ?_⟩⟩
  · have htext : "node" ++ Java.TypeName.brackets 0 = "node" := by decide +kernel
    rw [typeName_simple 0 rfl, resolveName_of_lowered (by decide +kernel) (by decide +kernel), pure_bind, htext]
    rfl
  · have hfound : (Index.ofUnits [nearbyUnit]).resolve? (nearbyNested "B") "T" = some "p.A$B$T" := by decide +kernel
    have htext : "p.A$B$T" ++ Java.TypeName.brackets 0 = "p.A$B$T" := by decide +kernel
    rw [typeName_simple 0 rfl, resolveName_of_resolve (by decide +kernel) hfound, pure_bind, htext]
    rfl

end Typings.Source
