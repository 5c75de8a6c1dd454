import Mathlib.Data.List.Basic
import Typings.Source.Index

/-!
# Indexed types

The index of some files holds the types that the files declare, at any depth, each under the name of its package and
those of the types that lead to it.
-/

namespace Typings.Source

lemma FileScope.qualify_eq (f : FileScope) (name : String) : f.qualify name = f.qualify "" ++ name := by
  unfold qualify
  split <;> simp

/-! ## Declared types -/

/-- The names lead from a type to the one with the given header, which is the type itself or in it, at any depth. -/
inductive TypeDeclaration.Declares : TypeDeclaration → List String → Header → Prop
  | here (d : TypeDeclaration) : d.Declares [d.header.name] d.header
  | inside {d inner : TypeDeclaration} {names : List String} {header : Header} (hmem : inner ∈ d.nested)
      (h : inner.Declares names header) : d.Declares (d.header.name :: names) header

namespace CompilationUnit

variable (u : CompilationUnit)

/-- The names lead from a type at the top level of the file to the one with the given header. -/
def Declares (names : List String) (header : Header) : Prop :=
  ∃ d ∈ u.types, d.Declares names header

/-- The name of the package and the names that lead to a type, with dollar signs between the latter. -/
def binaryName (names : List String) : String :=
  (FileScope.ofUnit u).qualify ("$".intercalate names)

/-- The name of the package and the names that lead to a type, with dots between all of them. -/
def canonicalName (names : List String) : String :=
  (FileScope.ofUnit u).qualify (".".intercalate names)

end CompilationUnit

lemma TypeDeclaration.Declares.exists_cons {d : TypeDeclaration} {names : List String} {header : Header}
    (h : d.Declares names header) : ∃ nested, names = d.header.name :: nested := by
  cases h with
  | here => exact ⟨[], rfl⟩
  | inside hmem h => exact ⟨_, rfl⟩

lemma TypeDeclaration.Declares.name_mem {d : TypeDeclaration} {names : List String} {header : Header}
    (h : d.Declares names header) : header.name ∈ names := by
  induction h with
  | here => exact List.mem_singleton.2 rfl
  | inside _ _ ih => exact List.mem_cons_of_mem _ ih

/-! ## Indexed types -/

section Indexed

variable {file : FileScope} {enclosing : List NamedType}

lemma typesNestedIn_eq (name : String) (ds : List TypeDeclaration) :
    typesNestedIn file enclosing name ds =
      ds.flatMap fun d => typesIn file enclosing (name ++ "$" ++ d.header.name) d := by
  induction ds with
  | nil => rfl
  | cons d ds ih =>
    cases d with
    | mk header nested =>
      rw [typesNestedIn, ih]
      rfl

lemma lead_intercalate (lead name : String) {names : List String} (hne : names ≠ []) :
    lead ++ name ++ "$" ++ "$".intercalate names = lead ++ "$".intercalate (name :: names) := by
  rw [← List.singleton_append, String.intercalate_append_of_ne_nil (by simp) hne, String.intercalate_singleton,
    String.append_assoc, String.append_assoc, String.append_assoc]

/-- A declared type is among the types of the declaration, whatever stands before their names. -/
lemma exists_mem_typesIn {d : TypeDeclaration} {names : List String} {header : Header} (h : d.Declares names header)
    (lead : String) :
    ∃ t ∈ typesIn file enclosing (lead ++ d.header.name) d,
      t.name = lead ++ "$".intercalate names ∧ t.header = header := by
  induction h generalizing enclosing lead with
  | here d =>
    cases d with
    | mk header nested => exact ⟨_, List.mem_cons_self, by rw [String.intercalate_singleton], rfl⟩
  | @inside d inner names header hmem h ih =>
    cases d with
    | mk outer nested =>
      obtain ⟨t, ht, hname, hheader⟩ := @ih (⟨lead ++ outer.name, outer⟩ :: enclosing) (lead ++ outer.name ++ "$")
      refine ⟨t, ?_, ?_, hheader⟩
      · rw [typesIn, typesNestedIn_eq]
        exact List.mem_cons_of_mem _ (List.mem_flatMap.2 ⟨inner, hmem, ht⟩)
      · obtain ⟨rest, rfl⟩ := h.exists_cons
        rw [hname, lead_intercalate lead outer.name (by simp)]
        rfl

mutual

theorem declares_of_mem_typesIn {t : SourceType} (enclosing : List NamedType) (lead : String) :
    ∀ d : TypeDeclaration, t ∈ typesIn file enclosing (lead ++ d.header.name) d →
      ∃ names, d.Declares names t.header ∧ t.name = lead ++ "$".intercalate names
  | .mk header nested, h => by
    rw [typesIn, List.mem_cons] at h
    rcases h with rfl | h
    · exact ⟨_, .here _, by rw [String.intercalate_singleton]⟩
    · obtain ⟨d, hd, names, hdeclares, hname⟩ := declares_of_mem_typesNestedIn _ _ nested h
      refine ⟨_, .inside hd hdeclares, ?_⟩
      obtain ⟨rest, rfl⟩ := hdeclares.exists_cons
      exact hname.trans (lead_intercalate lead header.name (by simp))

theorem declares_of_mem_typesNestedIn {t : SourceType} (enclosing : List NamedType) (name : String) :
    ∀ ds : List TypeDeclaration, t ∈ typesNestedIn file enclosing name ds →
      ∃ d ∈ ds, ∃ names, d.Declares names t.header ∧ t.name = name ++ "$" ++ "$".intercalate names
  | [], h => by cases h
  | .mk header nested :: ds, h => by
    rw [typesNestedIn, List.mem_append] at h
    rcases h with h | h
    · exact ⟨_, List.mem_cons_self, declares_of_mem_typesIn enclosing (name ++ "$") (.mk header nested) h⟩
    · obtain ⟨d, hd, hdeclares⟩ := declares_of_mem_typesNestedIn enclosing name ds h
      exact ⟨d, List.mem_cons_of_mem _ hd, hdeclares⟩

end

end Indexed

namespace CompilationUnit

variable {u : CompilationUnit}

lemma exists_mem_sourceTypes {names : List String} {header : Header} (h : u.Declares names header) :
    ∃ t ∈ u.sourceTypes, t.name = u.binaryName names ∧ t.header = header := by
  obtain ⟨d, hd, hdeclares⟩ := h
  obtain ⟨t, ht, hname⟩ := exists_mem_typesIn hdeclares ((FileScope.ofUnit u).qualify "")
  rw [← FileScope.qualify_eq] at ht hname
  exact ⟨t, List.mem_flatMap.2 ⟨d, hd, ht⟩, hname⟩

lemma declares_of_mem_sourceTypes {t : SourceType} (h : t ∈ u.sourceTypes) :
    ∃ names, u.Declares names t.header ∧ t.name = u.binaryName names := by
  obtain ⟨d, hd, ht⟩ := List.mem_flatMap.1 h
  rw [FileScope.qualify_eq] at ht
  obtain ⟨names, hdeclares, hname⟩ := declares_of_mem_typesIn [] _ d ht
  rw [← FileScope.qualify_eq] at hname
  exact ⟨names, ⟨d, hd, hdeclares⟩, hname⟩

end CompilationUnit

/-- The index of the types in some files, in the order of the files. -/
def Index.ofUnits (units : List CompilationUnit) : Index :=
  units.foldl (fun index u => index.insert u.sourceTypes) {}

lemma mem_types_foldl {units : List CompilationUnit} {index : Index} {t : SourceType} :
    t ∈ (units.foldl (fun index u => index.insert u.sourceTypes) index).types ↔
      t ∈ index.types ∨ ∃ u ∈ units, t ∈ u.sourceTypes := by
  induction units generalizing index with
  | nil => simp
  | cons u units ih =>
    rw [List.foldl_cons, ih, Index.insert, List.mem_append, List.mem_reverse, List.exists_mem_cons_iff, ← or_assoc]
    exact or_congr_left or_comm

lemma mem_types_ofUnits {units : List CompilationUnit} {t : SourceType} :
    t ∈ (Index.ofUnits units).types ↔ ∃ u ∈ units, t ∈ u.sourceTypes :=
  mem_types_foldl.trans (or_iff_right List.not_mem_nil)

/-- What is found in the index is declared in one of the files. -/
theorem exists_of_find?_ofUnits {units : List CompilationUnit} {name : String} {t : SourceType}
    (h : (Index.ofUnits units).find? name = some t) :
    ∃ u ∈ units, ∃ names, u.Declares names t.header ∧ name = u.binaryName names := by
  obtain ⟨u, hu, ht⟩ := mem_types_ofUnits.1 (List.mem_of_find?_eq_some h)
  obtain ⟨names, hdeclares, heq⟩ := u.declares_of_mem_sourceTypes ht
  have hname := List.find?_some (show (Index.ofUnits units).types.find? (·.name = name) = some t from h)
  exact ⟨u, hu, names, hdeclares, (of_decide_eq_true hname).symm.trans heq⟩

theorem contains_ofUnits {units : List CompilationUnit} {name : String} :
    (Index.ofUnits units).contains name ↔
      ∃ u ∈ units, ∃ names header, u.Declares names header ∧ name = u.binaryName names := by
  constructor
  · intro h
    obtain ⟨t, ht⟩ := Option.isSome_iff_exists.1 h
    obtain ⟨u, hu, names, hdeclares, heq⟩ := exists_of_find?_ofUnits ht
    exact ⟨u, hu, names, _, hdeclares, heq⟩
  · rintro ⟨u, hu, names, header, hdeclares, rfl⟩
    obtain ⟨t, ht, hname, -⟩ := u.exists_mem_sourceTypes hdeclares
    rw [Index.contains, Index.find?, List.find?_isSome]
    exact ⟨t, mem_types_ofUnits.2 ⟨u, hu, ht⟩, decide_eq_true hname⟩

/-! ## Files below directories -/

/-- The file among a list of files and directories, if it is accepted. -/
def unit? : Files.Entry → Option CompilationUnit
  | .directory => none
  | .file bytes => (CompilationUnit.ofBytes bytes).toOption

/-- The accepted Java files below some directories. -/
def unitsBelow (tree : Files.FileTree) (roots : List Files.Path) : List CompilationUnit :=
  (roots.flatMap (javaFiles tree)).filterMap fun (_, e) => unit? e

lemma exists_of_bind_ok {ε α β : Type} {step : Except ε α} {next : α → Except ε β} {b : β}
    (h : (step >>= next) = .ok b) : ∃ a, step = .ok a ∧ next a = .ok b := by
  cases step with
  | error e => cases h
  | ok a => exact ⟨a, rfl, h⟩

lemma index_of_addEntry {s s' : Indexing} {path : Files.Path} {e : Files.Entry} (h : s.addEntry path e = .ok s') :
    s'.index = (unit? e).toList.foldl (fun index u => index.insert u.sourceTypes) s.index := by
  cases e with
  | directory =>
    cases h
    rfl
  | file bytes =>
    simp only [Indexing.addEntry] at h
    split at h <;> cases h
    · next u hu => simp only [unit?, hu, Except.toOption, Option.toList, List.foldl]
    · next hu => simp only [unit?, hu, Except.toOption, Option.toList, List.foldl]

lemma index_of_foldlM {entries : List (Files.Path × Files.Entry)} {s s' : Indexing}
    (h : entries.foldlM (fun s (path, e) => s.addEntry path e) s = .ok s') :
    s'.index = (entries.filterMap fun (_, e) => unit? e).foldl (fun index u => index.insert u.sourceTypes) s.index := by
  induction entries generalizing s with
  | nil =>
    cases h
    rfl
  | cons entry entries ih =>
    obtain ⟨path, e⟩ := entry
    rw [List.foldlM_cons] at h
    obtain ⟨next, hentry, hrest⟩ := exists_of_bind_ok h
    rw [ih hrest, index_of_addEntry hentry, ← List.foldl_append]
    cases hunit : unit? e <;> simp [hunit]

/-- The index of some directories is that of the accepted files below them. -/
theorem result_ofRoots {tree : Files.FileTree} {roots : List Files.Path} {index : Index}
    (h : (Sources.ofRoots tree roots).result = .ok index) : index = Index.ofUnits (unitsBelow tree roots) := by
  unfold Sources.ofRoots at h
  split at h
  · next s hs =>
    cases h
    exact index_of_foldlM hs
  · cases h

end Typings.Source
