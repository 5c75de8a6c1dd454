import Typings.Proofs.EmittedTypes
import Typings.Proofs.MappedTypes

/-!
# The imports of a module

The types in the members of a module refer to built-in names, to the two classes that the module declares, to the helper
type of the runtime if that is imported, and to imported classes. Nothing is imported that no member refers to.
-/

namespace Typings.TypeScript

/-- The members that a statement declares. -/
def Statement.members : Statement → List Member
  | .classDeclaration declaration => declaration.members
  | _ => []

/-- What a statement imports. -/
def Statement.import? : Statement → Option ImportDeclaration
  | .importNames declaration => some declaration
  | _ => none

end Typings.TypeScript

namespace Typings.Conversion

open TypeScript (TypeNode Member Statement)

/-! ## Names in mapped types -/

/-- The class `name` goes by `shown` in the module of the class `self`. -/
def GoesBy (self name shown : String) : Prop :=
  (name = self ∧ (shown = Java.simpleName self ∨ shown = Java.simpleName self ++ "Class")) ∨
    (name ≠ self ∧ shown = Java.flatName name)

/-- The names in a mapped type are accounted for by what it says it refers to. -/
structure Accounted (own : String) (m : Mapped) : Prop where
  names : ∀ name ∈ m.node.names, name = "Buffer" ∨ (name = basicTypeName ∧ m.usesBasicType) ∨
    ∃ className, m.reference? = some className ∧ GoesBy own className name
  reference : ∀ className, m.reference? = some className → className ≠ own → Java.flatName className ∈ m.node.names
  basic : m.usesBasicType → basicTypeName ∈ m.node.names

lemma goesBy_shownName (self : String) (position : Position) (className : String) :
    GoesBy self className (shownName self position className) := by
  unfold shownName
  split
  · next hself =>
    subst hself
    cases position
    · exact .inl ⟨rfl, .inr rfl⟩
    · exact .inl ⟨rfl, .inl (by simp)⟩
  · next hself => exact .inr ⟨hself, rfl⟩

theorem IsMapped.accounted {self : String} {m : Mapped} (h : IsMapped self m) : Accounted self m := by
  obtain ⟨typeName, position, allowNull, hm⟩ := h
  have hshows := shows_of_mapType hm
  constructor
  case names =>
    intro name hname
    cases hclass : referredClass? typeName position with
    | none => exact (hshows.others hclass name hname).imp_right .inl
    | some className =>
      rw [hshows.shown className hclass, List.mem_singleton] at hname
      subst hname
      exact .inr (.inr ⟨className, hshows.reference.trans hclass, goesBy_shownName self position className⟩)
  case reference =>
    intro className hreference hne
    rw [hshows.shown className (hshows.reference.symm.trans hreference), shownName, if_neg hne]
    exact List.mem_singleton_self _
  case basic => exact hshows.basic

/-! ## Names in emitted types -/

/-- Emitted types have the names of the mapped ones; a promise adds its own. -/
lemma mem_names_of_delivers {mapped : List Mapped} {types : List TypeNode} (h : List.Forall₂ Delivers mapped types)
    {name : String} (hname : name ∈ types.flatMap TypeNode.names) :
    name = "Promise" ∨ ∃ m ∈ mapped, name ∈ m.node.names := by
  induction h with
  | nil => simp at hname
  | cons hdelivers _ ih =>
    rw [List.flatMap_cons, List.mem_append] at hname
    rcases hname with hname | hname
    · rcases hdelivers with rfl | rfl
      · exact .inr ⟨_, List.mem_cons_self, hname⟩
      · rw [TypeNode.names_promise, List.mem_cons] at hname
        exact hname.imp_right fun hname => ⟨_, List.mem_cons_self, hname⟩
    · exact (ih hname).imp_right fun ⟨m, hm, hname⟩ => ⟨m, List.mem_cons_of_mem _ hm, hname⟩

lemma names_subset_of_delivers {mapped : List Mapped} {types : List TypeNode} (h : List.Forall₂ Delivers mapped types)
    {m : Mapped} (hm : m ∈ mapped) : m.node.names ⊆ types.flatMap TypeNode.names := by
  induction h with
  | nil => simp at hm
  | cons hdelivers _ ih =>
    intro name hname
    rw [List.flatMap_cons, List.mem_append]
    rcases List.mem_cons.1 hm with rfl | hm
    · left
      rcases hdelivers with rfl | rfl
      · exact hname
      · rw [TypeNode.names_promise]
        exact List.mem_cons_of_mem _ hname
    · exact .inr (ih hm hname)

section Emits

variable {self : String} {resolved : List String} {r : References} {types : List TypeNode}

/-- Every name in the types emitted from the start is accounted for by what is noted at the end. -/
lemma Emits.mem_names (h : Emits self resolved {} r types) {name : String}
    (hname : name ∈ types.flatMap TypeNode.names) :
    name = "Promise" ∨ name = "Buffer" ∨ (name = basicTypeName ∧ r.usesBasicType) ∨
      ∃ className ∈ r.all, GoesBy self className name := by
  obtain ⟨mapped, rfl, hmapped, hdelivers⟩ := h
  refine (mem_names_of_delivers hdelivers hname).imp_right fun ⟨m, hm, hin⟩ => ?_
  rcases (hmapped m hm).accounted.names name hin with hbuffer | ⟨hbasic, huses⟩ | ⟨className, hreference, hgoes⟩
  · exact .inl hbuffer
  · exact .inr (.inl ⟨hbasic, References.usesBasicType_addAll.2 (.inr ⟨m, hm, huses⟩)⟩)
  · exact .inr (.inr ⟨className, References.mem_all_addAll.2 (.inr ⟨m, hm, hreference⟩), hgoes⟩)

lemma Emits.flatName_mem (h : Emits self resolved {} r types) {className : String} (hin : className ∈ r.all)
    (hne : className ≠ self) : Java.flatName className ∈ types.flatMap TypeNode.names := by
  obtain ⟨mapped, rfl, hmapped, hdelivers⟩ := h
  obtain ⟨m, hm, hreference⟩ := (References.mem_all_addAll.1 hin).resolve_left List.not_mem_nil
  exact names_subset_of_delivers hdelivers hm ((hmapped m hm).accounted.reference className hreference hne)

lemma Emits.basicTypeName_mem (h : Emits self resolved {} r types) (huses : r.usesBasicType) :
    basicTypeName ∈ types.flatMap TypeNode.names := by
  obtain ⟨mapped, rfl, hmapped, hdelivers⟩ := h
  obtain ⟨m, hm, hbasic⟩ := (References.usesBasicType_addAll.1 huses).resolve_left Bool.false_ne_true
  exact names_subset_of_delivers hdelivers hm ((hmapped m hm).accounted.basic hbasic)

lemma Emits.nodup (h : Emits self resolved {} r types) : r.all.Nodup := by
  obtain ⟨mapped, rfl, -, -⟩ := h
  exact References.nodup_all_addAll List.nodup_nil

end Emits

/-! ## The imports of a module -/

lemma moduleSpecifier_ne_runtimeModule (importer imported : String) :
    moduleSpecifier importer imported ≠ runtimeModule := by
  intro h
  have hchars := congrArg String.toList h
  simp [moduleSpecifier, runtimeModule, String.toList_append] at hchars

namespace Converted

/-- The names that the types of the emitted members refer to, at any depth. -/
def mentioned (c : Converted) : List String :=
  (c.statements.flatMap Statement.members).flatMap fun m => m.types.flatMap TypeNode.names

/-- What the module imports. -/
def imported (c : Converted) : List TypeScript.ImportDeclaration :=
  c.statements.filterMap Statement.import?

/-- The module imports the helper type of the runtime. -/
def ImportsBasicType (c : Converted) : Prop :=
  ∃ i ∈ c.imported, i.source = runtimeModule ∧ { name := basicTypeName } ∈ i.specifiers

/-- The module imports something under this alias. -/
def ImportsAs (c : Converted) (shown : String) : Prop :=
  ∃ i ∈ c.imported, ∃ s ∈ i.specifiers, s.alias? = some shown

/-- The names in the members of a module are bound, and all that is imported is needed. -/
structure SelfContained (c : Converted) : Prop where
  bound : ∀ name ∈ c.mentioned,
    name ∈ ["Buffer", "Promise", Java.simpleName c.info.name, Java.simpleName c.info.name ++ "Class"] ∨
      (name = basicTypeName ∧ c.ImportsBasicType) ∨ c.ImportsAs name
  used : ∀ shown, c.ImportsAs shown → shown ∈ c.mentioned
  basic : c.ImportsBasicType → basicTypeName ∈ c.mentioned
  /-- Besides the runtime, each class that is referred to is imported once, except the module's own. -/
  once : ∃ classNames : List String, classNames.Nodup ∧
    (∀ name, name ∈ classNames ↔ name ≠ c.info.name ∧ name ∈ referredBy c.info) ∧
    c.imported = runtimeImport c.references.usesBasicType :: classNames.map fun name =>
      { specifiers := [{ name := Java.simpleName name, alias? := some (Java.flatName name) }]
        source := moduleSpecifier c.info.name name }

/-- Only the declared class has members with types. -/
lemma emittedTypes_eq (c : Converted) :
    (c.statements.flatMap Statement.members).flatMap Member.types = c.members.flatMap Member.types := by
  have himports : ((c.references.imports c.info.name).map Statement.importNames).flatMap Statement.members = [] := by
    simp [List.flatMap_map, Statement.members]
  have hexported : (exportedClass c.info.name c.info.isAbstract).members.flatMap Member.types = [] := by
    cases h : c.info.isAbstract <;> simp [exportedClass, privateConstructor, Member.types]
  simp only [statements, List.flatMap_cons, List.flatMap_append, List.cons_append, himports, Statement.members,
    declaredClass, List.flatMap_nil, List.nil_append, List.append_nil, hexported]

lemma mentioned_eq (c : Converted) : c.mentioned = (c.members.flatMap Member.types).flatMap TypeNode.names := by
  rw [← emittedTypes_eq]
  exact List.flatMap_assoc.symm

lemma imported_eq (c : Converted) :
    c.imported = runtimeImport c.references.usesBasicType :: c.references.imports c.info.name := by
  have himports : ((c.references.imports c.info.name).map Statement.importNames).filterMap Statement.import? =
      c.references.imports c.info.name := by
    simp [List.filterMap_map, Function.comp_def, Statement.import?]
  simp [imported, statements, Statement.import?, himports]

lemma importsBasicType_iff (c : Converted) : c.ImportsBasicType ↔ c.references.usesBasicType := by
  unfold ImportsBasicType
  rw [imported_eq, List.exists_mem_cons_iff]
  constructor
  · rintro (⟨-, hmem⟩ | ⟨i, hi, hsource, -⟩)
    · by_contra hnot
      simp [runtimeImport, hnot, basicTypeName] at hmem
    · -- Classes are imported by relative paths.
      obtain ⟨name, -, rfl⟩ := List.mem_map.1 hi
      exact absurd hsource (moduleSpecifier_ne_runtimeModule _ _)
  · intro huses
    exact .inl ⟨rfl, by simp [runtimeImport, huses]⟩

lemma importsAs_iff (c : Converted) (shown : String) :
    c.ImportsAs shown ↔ ∃ name ∈ c.references.all, name ≠ c.info.name ∧ Java.flatName name = shown := by
  simp [ImportsAs, imported_eq, runtimeImport, References.imports, and_assoc]

end Converted

/-- A list of items that can be filled from bytes and copied. -/
def listInfo : Java.ClassInfo :=
  { name := "p.List"
    modifiers := ⟨1⟩
    fields := [⟨"first", "p.Item", ⟨1⟩⟩]
    methods := [⟨"fill", ["byte[]", "int"], "java.lang.Object", ⟨1⟩⟩]
    constructors := [⟨["p.List"], ⟨1⟩⟩] }

/-- The module of every class that is converted is self-contained. -/
theorem convertClass_selfContained {info : Java.ClassInfo} {resolved : List String} {c : Converted}
    (h : convertClass info resolved = .ok c) : c.info = info ∧ c.SelfContained := by
  obtain ⟨hinfo, hall, -⟩ := convertClass_ok h
  have hemits : Emits c.info.name resolved {} c.references (c.members.flatMap Member.types) := by
    unfold convertClass at h
    split at h
    · rename_i hmembers
      cases h
      exact emits_convertMembers hmembers
    · cases h
  refine ⟨hinfo, ?bound, ?used, ?basic, ?once⟩
  case bound =>
    intro name hname
    rw [c.mentioned_eq] at hname
    rcases hemits.mem_names hname with rfl | rfl | hbasic | ⟨className, hin, ⟨-, hshown⟩ | ⟨hne, rfl⟩⟩
    · simp
    · simp
    · exact .inr (.inl (hbasic.imp_right c.importsBasicType_iff.2))
    · exact .inl (by rcases hshown with rfl | rfl <;> simp)
    · exact .inr (.inr ((c.importsAs_iff _).2 ⟨className, hin, hne, rfl⟩))
  case used =>
    intro shown hshown
    obtain ⟨className, hin, hne, rfl⟩ := (c.importsAs_iff shown).1 hshown
    exact c.mentioned_eq ▸ hemits.flatName_mem hin hne
  case basic =>
    intro himports
    exact c.mentioned_eq ▸ hemits.basicTypeName_mem (c.importsBasicType_iff.1 himports)
  case once =>
    refine ⟨c.references.all.filter (· ≠ c.info.name), hemits.nodup.filter _, fun name => ?_, c.imported_eq⟩
    rw [List.mem_filter, hall, hinfo, decide_eq_true_eq, and_comm]

theorem convertClass_selfContained_list :
    ∃ c, convertClass listInfo ["p.List"] = .ok c ∧ c.info = listInfo ∧ c.SelfContained ∧
      c.mentioned = ["p_Item", "Promise", "BasicOrJavaType", "Buffer", "java_lang_Integer", "BasicOrJavaType", "Buffer",
        "java_lang_Integer", "Promise", "List", "ListClass", "ListClass"] := by
  have hsome : (convertClass listInfo ["p.List"]).toOption.map Converted.mentioned =
      some ["p_Item", "Promise", "BasicOrJavaType", "Buffer", "java_lang_Integer", "BasicOrJavaType", "Buffer",
        "java_lang_Integer", "Promise", "List", "ListClass", "ListClass"] := by
    decide +kernel
  cases h : convertClass listInfo ["p.List"] with
  | error e => simp [h, Except.toOption] at hsome
  | ok c =>
    obtain ⟨hinfo, hself⟩ := convertClass_selfContained h
    simp only [h, Except.toOption, Option.map_some, Option.some.injEq] at hsome
    exact ⟨c, rfl, hinfo, hself, hsome⟩

end Typings.Conversion
