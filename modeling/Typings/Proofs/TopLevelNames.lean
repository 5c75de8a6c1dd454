import Mathlib.Data.List.Nodup
import Typings.Proofs.ModuleImports

/-!
# The names that a module binds

At its top level a module binds what it imports from the runtime, the aliases of the classes it imports, and its own two
classes. Aliases are class names with underscores for dots, so two classes may come to one alias, and so may a class and
one of the other names. These are the only ways in which a name is bound twice.
-/

namespace Typings

namespace TypeScript

/-- The name under which a specifier makes the imported one known; an empty alias counts as none. -/
def ImportSpecifier.boundName (s : ImportSpecifier) : String :=
  match s.alias? with
  | none => s.name
  | some name => if name = "" then s.name else name

/-- The names that a statement binds at the top level of the module. -/
def Statement.boundNames : Statement → List String
  | .importNames declaration => declaration.specifiers.map ImportSpecifier.boundName
  | .classDeclaration declaration => [declaration.name]
  | .exportDefault _ | .blank => []

end TypeScript

/-! ## Flat names -/

namespace Java

lemma mem_flatName {name : String} (h : '.' ∈ name.toList) : '_' ∈ (flatName name).toList := by
  rw [flatName, String.toList_ofList, List.mem_map]
  exact ⟨'.', h, rfl⟩

lemma flatName_of_notMem {name : String} (h : '.' ∉ name.toList) : flatName name = name := by
  apply String.toList_inj.1
  rw [flatName, String.toList_ofList]
  refine (List.map_congr_left fun c hc => if_neg ?_).trans (List.map_id _)
  rintro rfl
  exact h hc

/-- Only the class of the default package goes by a name without an underscore. -/
lemma flatName_eq_iff {name other : String} (hunderscore : '_' ∉ other.toList) (hdot : '.' ∉ other.toList) :
    flatName name = other ↔ name = other := by
  refine ⟨fun h => ?_, fun h => h ▸ flatName_of_notMem (h ▸ hdot)⟩
  have hname : '.' ∉ name.toList := fun hin => hunderscore (h ▸ mem_flatName hin)
  rwa [flatName_of_notMem hname] at h

/-- Names without underscores can be told from their flat forms. -/
lemma flatName_injOn {a b : String} (ha : '_' ∉ a.toList) (hb : '_' ∉ b.toList) (h : flatName a = flatName b) : a = b := by
  have hback : ∀ name : String, '_' ∉ name.toList →
      (flatName name).toList.map (fun c => if c = '_' then '.' else c) = name.toList := by
    intro name hname
    rw [flatName, String.toList_ofList, List.map_map]
    refine (List.map_congr_left fun c hc => ?_).trans (List.map_id _)
    have hne : c ≠ '_' := by
      rintro rfl
      exact hname hc
    by_cases hdot : c = '.' <;> simp [hdot, hne]
  apply String.toList_inj.1
  rw [← hback a ha, h, hback b hb]

end Java

namespace Conversion

open TypeScript (Statement)

lemma nodup_references {info : Java.ClassInfo} {resolved : List String} {c : Converted}
    (h : convertClass info resolved = .ok c) : c.references.all.Nodup := by
  obtain ⟨result, mapped, hmaps⟩ := uniform_convertMembers info.name info
  have hresolved := hmaps resolved {}
  cases result with
  | error e => simp [convertClass, hresolved] at h
  | ok members =>
    simp only [convertClass, hresolved, Except.ok.injEq] at h
    subst h
    exact References.nodup_all_addAll List.nodup_nil

/-- What a module imports from the runtime. -/
def runtimeNames (usesBasicType : Bool) : List String :=
  ["importClass", "JavaClass"] ++ if usesBasicType then [basicTypeName] else []

lemma notMem_runtimeNames {usesBasicType : Bool} {name : String} :
    name ∉ runtimeNames usesBasicType ↔
      name ∉ ["importClass", "JavaClass"] ∧ (usesBasicType → name ≠ "BasicOrJavaType") := by
  cases usesBasicType <;> simp [runtimeNames, basicTypeName, and_assoc]

lemma nodup_runtimeNames (usesBasicType : Bool) : (runtimeNames usesBasicType).Nodup := by
  cases usesBasicType <;> decide

/-- The names of the runtime are no aliases of classes in packages. -/
lemma flatName_mem_runtimeNames {usesBasicType : Bool} {name : String} :
    Java.flatName name ∈ runtimeNames usesBasicType ↔ name ∈ runtimeNames usesBasicType := by
  have hplain : ∀ other ∈ runtimeNames usesBasicType, Java.flatName name = other ↔ name = other := by
    intro other hother
    have hchars : '_' ∉ other.toList ∧ '.' ∉ other.toList := by
      cases usesBasicType <;> revert other <;> decide +kernel
    exact Java.flatName_eq_iff hchars.1 hchars.2
  exact ⟨fun h => (hplain _ h).1 rfl ▸ h, fun h => ((hplain _ h).2 rfl).symm ▸ h⟩

/-- The simple names of classes that meet no name of the runtime. -/
lemma own_notMem_runtimeNames {usesBasicType : Bool} {simple : String} :
    (simple ++ "Class" ∉ runtimeNames usesBasicType ∧ simple ∉ runtimeNames usesBasicType) ↔
      simple ∉ ["importClass", "JavaClass", "import", "Java"] ∧ (usesBasicType → simple ≠ "BasicOrJavaType") := by
  have himport : simple ++ "Class" = "importClass" ↔ simple = "import" := @String.append_left_inj simple "import" "Class"
  have hjava : simple ++ "Class" = "JavaClass" ↔ simple = "Java" := @String.append_left_inj simple "Java" "Class"
  have hbasic : simple ++ "Class" ≠ "BasicOrJavaType" := by
    intro heq
    have hlast := congrArg (fun s : String => s.toList.getLast?) heq
    simp [List.getLast?_append] at hlast
  simp only [notMem_runtimeNames, List.mem_cons, List.not_mem_nil, or_false, not_or, himport, hjava, hbasic, ne_eq,
    not_false_eq_true, implies_true, and_true]
  tauto

namespace Converted

/-- The names that the module binds at its top level. -/
def boundNames (c : Converted) : List String :=
  c.statements.flatMap Statement.boundNames

/-- The module imports the class. -/
def ImportsClass (c : Converted) (className : String) : Prop :=
  className ∈ referredBy c.info ∧ className ≠ c.info.name

/-- No two of the names that the module binds meet: neither two aliases, nor an alias and a name of the runtime, nor an
alias and one of the module's own classes, nor one of these and a name of the runtime. -/
structure NamesApart (c : Converted) : Prop where
  aliases : ∀ a b, c.ImportsClass a → c.ImportsClass b → Java.flatName a = Java.flatName b → a = b
  /-- A class is known by the name of a helper only in the default package. -/
  helpers : ∀ a, c.ImportsClass a → a ∉ ["importClass", "JavaClass"] ∧ (c.ImportsBasicType → a ≠ "BasicOrJavaType")
  own : ∀ a, c.ImportsClass a → Java.flatName a ≠ Java.simpleName c.info.name ∧
    Java.flatName a ≠ Java.simpleName c.info.name ++ "Class"
  simple : Java.simpleName c.info.name ∉ ["importClass", "JavaClass", "import", "Java"] ∧
    (c.ImportsBasicType → Java.simpleName c.info.name ≠ "BasicOrJavaType")

lemma boundNames_eq (c : Converted) :
    c.boundNames = runtimeNames c.references.usesBasicType ++
      (c.references.all.filter (· ≠ c.info.name)).map Java.flatName ++
      [Java.simpleName c.info.name ++ "Class", Java.simpleName c.info.name] := by
  have hruntime : (runtimeImport c.references.usesBasicType).specifiers.map TypeScript.ImportSpecifier.boundName =
      runtimeNames c.references.usesBasicType := by
    simp [runtimeImport, runtimeNames, Function.comp_def, TypeScript.ImportSpecifier.boundName]
  have halias : ∀ name : String, ({ name := Java.simpleName name, alias? := some (Java.flatName name) } :
      TypeScript.ImportSpecifier).boundName = Java.flatName name := by
    intro name
    by_cases hempty : Java.flatName name = ""
    · obtain rfl := (Java.flatName_eq_iff (by decide) (by decide)).1 hempty
      decide +kernel
    · simp [TypeScript.ImportSpecifier.boundName, hempty]
  have himports : ((c.references.imports c.info.name).map Statement.importNames).flatMap Statement.boundNames =
      (c.references.all.filter (· ≠ c.info.name)).map Java.flatName := by
    rw [References.imports, List.map_map, List.flatMap_map, List.map_eq_flatMap]
    simp only [Function.comp_apply, Statement.boundNames, List.map_cons, List.map_nil, halias]
  simp only [boundNames, statements, List.flatMap_cons, List.flatMap_append, himports, Statement.boundNames, hruntime,
    declaredClass, exportedClass, List.flatMap_nil, List.append_assoc, List.nil_append, List.cons_append]

variable {c : Converted}

/-- A helper of the runtime and an alias meet in a class of the default package only. -/
lemma disjoint_helpers_iff {classNames : List String} (himported : ∀ a, a ∈ classNames ↔ c.ImportsClass a) :
    (∀ a ∈ runtimeNames c.references.usesBasicType, ∀ b ∈ classNames.map Java.flatName, a ≠ b) ↔
      ∀ a, c.ImportsClass a → a ∉ runtimeNames c.references.usesBasicType := by
  constructor
  · intro h a ha hin
    exact h _ (flatName_mem_runtimeNames.2 hin) _ (List.mem_map_of_mem ((himported a).2 ha)) rfl
  · rintro h _ hin _ hmap rfl
    obtain ⟨a, ha, rfl⟩ := List.mem_map.1 hmap
    exact h a ((himported a).1 ha) (flatName_mem_runtimeNames.1 hin)

/-- Neither helpers nor aliases meet the module's own classes. -/
lemma disjoint_own_iff {helpers classNames : List String} {simple : String}
    (himported : ∀ a, a ∈ classNames ↔ c.ImportsClass a) :
    (∀ a ∈ helpers ++ classNames.map Java.flatName, ∀ b ∈ [simple ++ "Class", simple], a ≠ b) ↔
      (simple ++ "Class" ∉ helpers ∧ simple ∉ helpers) ∧
        ∀ a, c.ImportsClass a → Java.flatName a ≠ simple ∧ Java.flatName a ≠ simple ++ "Class" := by
  constructor
  · intro h
    refine ⟨⟨fun hin => ?_, fun hin => ?_⟩, fun a ha => ?_⟩
    · exact h _ (List.mem_append_left _ hin) _ List.mem_cons_self rfl
    · exact h _ (List.mem_append_left _ hin) _ (List.mem_cons_of_mem _ List.mem_cons_self) rfl
    · have hmem := List.mem_append_right helpers (List.mem_map_of_mem (f := Java.flatName) ((himported a).2 ha))
      exact ⟨h _ hmem _ (List.mem_cons_of_mem _ List.mem_cons_self), h _ hmem _ List.mem_cons_self⟩
  · rintro ⟨⟨hclass, hsimple⟩, hown⟩ a ha b hb rfl
    have hb : a = simple ++ "Class" ∨ a = simple := by simpa using hb
    rcases List.mem_append.1 ha with hin | hin
    · rcases hb with rfl | rfl
      · exact hclass hin
      · exact hsimple hin
    · obtain ⟨name, hname, rfl⟩ := List.mem_map.1 hin
      exact hb.elim (hown name ((himported name).1 hname)).2 (hown name ((himported name).1 hname)).1

/-- The names that a module binds are distinct exactly if none of its aliases, helpers and classes meet. -/
lemma nodup_boundNames_iff (hall : c.references.all = referredBy c.info) (hnodup : c.references.all.Nodup) :
    c.boundNames.Nodup ↔ c.NamesApart := by
  have himported : ∀ a, a ∈ c.references.all.filter (· ≠ c.info.name) ↔ c.ImportsClass a := by
    simp [ImportsClass, hall]
  have hself : [Java.simpleName c.info.name ++ "Class", Java.simpleName c.info.name].Nodup := by
    simp
  rw [boundNames_eq, List.nodup_append, List.nodup_append, List.nodup_map_iff_inj_on (hnodup.filter _),
    disjoint_helpers_iff himported, disjoint_own_iff himported, own_notMem_runtimeNames]
  simp only [himported, nodup_runtimeNames, hself, true_and, notMem_runtimeNames, ← c.importsBasicType_iff]
  constructor
  · rintro ⟨⟨haliases, hhelpers⟩, hsimple, hown⟩
    exact ⟨fun a b ha hb => haliases a ha b hb, hhelpers, hown, hsimple⟩
  · intro h
    exact ⟨⟨fun a ha b hb => h.aliases a b ha hb, h.helpers⟩, h.simple, h.own⟩

/-- Names without underscores stay apart, where all imported classes lie in packages. -/
lemma namesApart_of_packages
    (hpackages : ∀ a, c.ImportsClass a → '.' ∈ a.toList ∧ '_' ∉ a.toList)
    (hplain : '_' ∉ (Java.simpleName c.info.name).toList)
    (hsimple : Java.simpleName c.info.name ∉ ["importClass", "JavaClass", "import", "Java", "BasicOrJavaType"]) :
    c.NamesApart where
  aliases a b ha hb h := Java.flatName_injOn (hpackages a ha).2 (hpackages b hb).2 h
  helpers a ha := by
    have hdot := (hpackages a ha).1
    constructor
    · intro hin
      simp only [List.mem_cons, List.not_mem_nil, or_false] at hin
      rcases hin with rfl | rfl <;> revert hdot <;> decide
    · rintro - rfl
      revert hdot
      decide
  own a ha := by
    have hunderscore := Java.mem_flatName (hpackages a ha).1
    constructor
    · intro heq
      exact hplain (heq ▸ hunderscore)
    · intro heq
      rw [heq, String.toList_append, List.mem_append] at hunderscore
      rcases hunderscore with hin | hin
      · exact hplain hin
      · revert hin
        decide
  simple := by
    simp only [List.mem_cons, List.not_mem_nil, or_false, not_or] at hsimple ⊢
    tauto

end Converted

/-- No name is bound twice at the top level of a module exactly if its aliases, helpers and classes do not meet. They do
not if all imported classes lie in packages and no name has an underscore or is one of the runtime's. -/
theorem boundNames_nodup_iff {info : Java.ClassInfo} {resolved : List String} {c : Converted}
    (h : convertClass info resolved = .ok c) :
    c.info = info ∧ (c.boundNames.Nodup ↔ c.NamesApart) ∧
      ((∀ a, c.ImportsClass a → '.' ∈ a.toList ∧ '_' ∉ a.toList) →
        '_' ∉ (Java.simpleName info.name).toList →
        Java.simpleName info.name ∉ ["importClass", "JavaClass", "import", "Java", "BasicOrJavaType"] →
        c.boundNames.Nodup) := by
  obtain ⟨rfl, hall, -⟩ := convertClass_ok h
  have hiff := Converted.nodup_boundNames_iff hall (nodup_references h)
  exact ⟨rfl, hiff, fun hpackages hplain hsimple =>
    hiff.2 (Converted.namesApart_of_packages hpackages hplain hsimple)⟩

/-- A class that refers to two classes with one alias. -/
def crossedInfo : Java.ClassInfo :=
  { name := "p.Owner"
    modifiers := ⟨1⟩
    fields := [⟨"first", "text.io_Reader", ⟨1⟩⟩, ⟨"second", "text_io.Reader", ⟨1⟩⟩] }

theorem boundNames_meet_crossed :
    ¬∀ (info : Java.ClassInfo) (resolved : List String) (c : Converted),
      convertClass info resolved = .ok c → c.boundNames.Nodup := by
  intro h
  have hnames : (convertClass crossedInfo []).toOption.map Converted.boundNames =
      some ["importClass", "JavaClass", "text_io_Reader", "text_io_Reader", "OwnerClass", "Owner"] := by
    decide +kernel
  cases hc : convertClass crossedInfo [] with
  | error e => simp [hc, Except.toOption] at hnames
  | ok c =>
    simp only [hc, Except.toOption, Option.map_some, Option.some.injEq] at hnames
    have hnodup := h _ _ c hc
    rw [hnames] at hnodup
    revert hnodup
    decide

theorem boundNames_nodup_iff_list :
    ∃ c, convertClass listInfo ["p.List"] = .ok c ∧ c.NamesApart ∧
      c.boundNames = ["importClass", "JavaClass", "BasicOrJavaType", "p_Item", "java_lang_Integer", "ListClass", "List"] := by
  have hnames : (convertClass listInfo ["p.List"]).toOption.map Converted.boundNames =
      some ["importClass", "JavaClass", "BasicOrJavaType", "p_Item", "java_lang_Integer", "ListClass", "List"] := by
    decide +kernel
  cases h : convertClass listInfo ["p.List"] with
  | error e => simp [h, Except.toOption] at hnames
  | ok c =>
    simp only [h, Except.toOption, Option.map_some, Option.some.injEq] at hnames
    exact ⟨c, rfl, (boundNames_nodup_iff h).2.1.1 (hnames ▸ by decide), hnames⟩

end Conversion

end Typings
