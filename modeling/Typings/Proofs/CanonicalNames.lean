import Mathlib.Data.List.Forall2
import Typings.Proofs.IdentifierNames
import Typings.Proofs.SourceNames

/-!
# Canonical and binary names

A type is indexed under the name of its package and the names of the types that lead to it. From its canonical name,
where all of them are joined by dots, this name can be told in two ways: by the index, or by the convention on capital
letters. Both agree for indexed types if packages and types follow the convention.
-/

namespace Typings

/-! ## Joining and cutting names -/

namespace Text

lemma splitAt_append (sep : Char) (s t : String) :
    splitAt sep (s ++ String.singleton sep ++ t) = splitAt sep s ++ splitAt sep t := by
  rw [splitAt, String.toList_append, String.toList_append, String.toList_singleton, List.append_assoc,
    List.singleton_append, List.splitOn_append_cons_self, List.map_append]
  rfl

lemma intercalate_append_join {sep : String} {parts : List String} (hne : parts ≠ []) (more : List String) :
    sep.intercalate (parts ++ more) = sep.intercalate parts ++ String.join (more.map (sep ++ ·)) := by
  induction more generalizing parts with
  | nil => simp
  | cons part more ih =>
    have happend : parts ++ part :: more = (parts ++ [part]) ++ more := by simp
    rw [happend, ih (by simp), String.intercalate_append_of_ne_nil hne (by simp), String.intercalate_singleton,
      List.map_cons, String.join_cons, String.append_assoc, String.append_assoc, String.append_assoc]

end Text

namespace Java

/-- Whether the name starts with an upper-case letter. -/
def isCapitalized (s : String) : Bool :=
  s.toList.head?.any Text.isUpper

lemma splitAtCapital_append {lower nested : List String} {top : String} (hlower : ∀ s ∈ lower, isCapitalized s = false)
    (htop : isCapitalized top = true) : splitAtCapital (lower ++ top :: nested) = some (lower ++ [top], nested) := by
  induction lower with
  | nil =>
    rw [List.nil_append, splitAtCapital, ← isCapitalized, if_pos htop]
    rfl
  | cons s lower ih =>
    obtain ⟨hs, hlower⟩ := List.forall_mem_cons.1 hlower
    rw [List.cons_append, splitAtCapital, ← isCapitalized, hs, ih hlower]
    rfl

lemma nestedName_eq (outer nested : List String) :
    nestedName outer nested = ".".intercalate outer ++ String.join (nested.map ("$" ++ ·)) :=
  String.join_cons

end Java

namespace Source

/-! ## Files -/

namespace FileScope

variable (f : FileScope)

/-- The segments of the package; none in the unnamed package. -/
def packageSegments : List String :=
  if f.package = "" then [] else Java.segments f.package

lemma qualify_intercalate {names : List String} (hne : names ≠ []) :
    f.qualify (".".intercalate names) = ".".intercalate (f.packageSegments ++ names) := by
  unfold qualify packageSegments
  split
  · rfl
  · have hsegments : Java.segments f.package ≠ [] := Text.splitAt_ne_nil '.' f.package
    rw [String.intercalate_append_of_ne_nil hsegments hne, intercalate_segments]

lemma intercalate_packageSegments : ".".intercalate f.packageSegments = f.package := by
  unfold packageSegments
  split
  · next hpackage => rw [hpackage, String.intercalate_nil]
  · exact intercalate_segments f.package

lemma segments_qualify (name : String) : Java.segments (f.qualify name) = f.packageSegments ++ Java.segments name := by
  unfold qualify packageSegments
  split
  · rfl
  · exact Text.splitAt_append '.' f.package name

end FileScope

/-! ## The convention -/

namespace CompilationUnit

/-- The types at the top level of the file start with an upper-case letter, and the packages around them do not. -/
structure IsConventional (u : CompilationUnit) : Prop where
  package : ∀ s ∈ Java.segments (FileScope.ofUnit u).package, Java.isCapitalized s = false
  top : ∀ d ∈ u.types, Java.isCapitalized d.header.name = true

namespace IsConventional

variable {u : CompilationUnit} (hu : u.IsConventional)
include hu

lemma packageSegments : ∀ s ∈ (FileScope.ofUnit u).packageSegments, Java.isCapitalized s = false := by
  unfold FileScope.packageSegments
  split
  · simp
  · exact hu.package

lemma exists_cons {names : List String} {header : Header} (h : u.Declares names header) :
    ∃ top nested, names = top :: nested ∧ Java.isCapitalized top = true := by
  obtain ⟨d, hd, hdeclares⟩ := h
  obtain ⟨nested, rfl⟩ := hdeclares.exists_cons
  exact ⟨_, nested, rfl, hu.top d hd⟩

lemma ne_nil {names : List String} {header : Header} (h : u.Declares names header) : names ≠ [] := by
  obtain ⟨top, nested, rfl, -⟩ := hu.exists_cons h
  simp

end IsConventional

end CompilationUnit

section Conventional

variable {u : CompilationUnit} {names outer nested : List String} {name : String}

lemma dot_notMem_join (sep : String) (hsep : '.' ∉ sep.toList) (hnested : ∀ n ∈ nested, '.' ∉ n.toList) :
    '.' ∉ (String.join (nested.map (sep ++ ·))).toList := by
  simp only [String.toList_join, List.mem_flatMap, List.mem_map, not_exists, not_and]
  rintro _ ⟨n, hn, rfl⟩
  simp [hsep, hnested n hn]

lemma dollar_intercalate (nested : List String) :
    "$".intercalate (name :: nested) = name ++ String.join (nested.map ("$" ++ ·)) := by
  rw [← List.singleton_append, Text.intercalate_append_join (by simp), String.intercalate_singleton]

lemma segments_of_dot_notMem (h : '.' ∉ name.toList) : Java.segments name = [name] :=
  Text.splitAt_of_notMem h

lemma segments_canonicalName (hne : names ≠ []) (hdot : ∀ n ∈ names, '.' ∉ n.toList) :
    Java.segments (u.canonicalName names) = (FileScope.ofUnit u).packageSegments ++ names := by
  rw [CompilationUnit.canonicalName, FileScope.segments_qualify]
  exact congrArg _ (Text.splitAt_intercalate '.' hne hdot)

/-- The last segment of a binary name is that of its top-level type and the types in it. -/
lemma segments_binaryName (hne : names ≠ []) (hdot : ∀ n ∈ names, '.' ∉ n.toList) :
    Java.segments (u.binaryName names) = (FileScope.ofUnit u).packageSegments ++ ["$".intercalate names] := by
  rw [CompilationUnit.binaryName, FileScope.segments_qualify, segments_of_dot_notMem]
  obtain ⟨top, nested, rfl⟩ := List.exists_cons_of_ne_nil hne
  obtain ⟨htop, hnested⟩ := List.forall_mem_cons.1 hdot
  rw [dollar_intercalate, String.toList_append, List.mem_append, not_or]
  exact ⟨htop, dot_notMem_join "$" (by decide) hnested⟩

lemma binaryName_eq_nestedName (top : String) (nested : List String) :
    u.binaryName (top :: nested) = Java.nestedName ((FileScope.ofUnit u).packageSegments ++ [top]) nested := by
  rw [CompilationUnit.binaryName, dollar_intercalate, Java.nestedName_eq, ← FileScope.qualify_intercalate _ (by simp),
    String.intercalate_singleton, FileScope.qualify_eq, FileScope.qualify_eq _ top, String.append_assoc]

/-- The first indexed name is found: the cut after `outer`, if none after it is one. -/
lemma binaryName?_eq_some {index : Index} (hsplit : outer ++ nested = Java.segments name) (hne : outer ≠ [])
    (hhit : index.contains (Java.nestedName outer nested) = true)
    (hlater : ∀ between last after, between ++ last :: after = nested →
      index.contains (Java.nestedName (outer ++ between ++ [last]) after) = false) :
    index.binaryName? name = some (Java.nestedName outer nested) := by
  have hpos := List.length_pos_iff.2 hne
  -- cutting off `count` segments leaves `outer` and the first segments of `nested`
  have hcut : ∀ count ≤ nested.length,
      (outer ++ nested).take ((outer ++ nested).length - count) = outer ++ nested.take (nested.length - count) ∧
      (outer ++ nested).drop ((outer ++ nested).length - count) = nested.drop (nested.length - count) := by
    intro count hcount
    rw [List.length_append, Nat.add_sub_assoc hcount, List.take_length_add_append, List.drop_length_add_append]
    exact ⟨rfl, rfl⟩
  obtain ⟨htake, hdrop⟩ := hcut nested.length (Nat.le_refl _)
  rw [Nat.sub_self, List.take_zero, List.append_nil] at htake
  rw [Nat.sub_self, List.drop_zero] at hdrop
  rw [Index.binaryName?, Index.binaryNames, List.find?_map, ← hsplit]
  -- the search goes from the longest front to shorter ones
  have hfind : (List.range (outer ++ nested).length).find? (index.contains ∘ fun count =>
      Java.nestedName ((outer ++ nested).take ((outer ++ nested).length - count))
        ((outer ++ nested).drop ((outer ++ nested).length - count))) = some nested.length := by
    rw [List.find?_range_eq_some, List.mem_range, Function.comp_apply, htake, hdrop, List.length_append]
    refine ⟨hhit, by omega, fun count hcount => ?_⟩
    obtain ⟨htake, hdrop⟩ := hcut count (Nat.le_of_lt hcount)
    have hpositive : 0 < (nested.take (nested.length - count)).length := by
      rw [List.length_take]
      omega
    obtain ⟨between, last, hlast⟩ := (List.eq_nil_or_concat' _).resolve_left (List.ne_nil_of_length_pos hpositive)
    rw [Function.comp_apply, ← List.length_append, htake, hdrop, hlast, ← List.append_assoc, hlater between last]
    · rfl
    · rw [List.append_cons, ← hlast, List.take_append_drop]
  rw [hfind, Option.map_some, htake, hdrop]

/-- With one more dot than the packages and the top-level type have, a name puts that type among the packages. -/
lemma segments_nestedName {top last : String} (hdot : ∀ n ∈ top :: outer ++ last :: nested, '.' ∉ n.toList) :
    Java.segments (Java.nestedName ((FileScope.ofUnit u).packageSegments ++ top :: outer ++ [last]) nested) =
      (FileScope.ofUnit u).packageSegments ++ top :: outer ++ [last ++ String.join (nested.map ("$" ++ ·))] := by
  obtain ⟨houter, hlast⟩ := List.forall_mem_append.1 hdot
  obtain ⟨hlast, hnested⟩ := List.forall_mem_cons.1 hlast
  have hplain : '.' ∉ (last ++ String.join (nested.map ("$" ++ ·))).toList := by
    rw [String.toList_append, List.mem_append, not_or]
    exact ⟨hlast, dot_notMem_join "$" (by decide) hnested⟩
  rw [Java.nestedName_eq, String.intercalate_append_of_ne_nil (by simp) (by simp), String.intercalate_singleton,
    String.append_assoc, ← FileScope.qualify_intercalate _ (by simp)]
  have happend := Text.splitAt_append '.' (u.canonicalName (top :: outer)) (last ++ String.join (nested.map ("$" ++ ·)))
  rw [← Java.segments, ← Java.segments, ← Java.segments, segments_canonicalName (by simp) houter,
    segments_of_dot_notMem hplain] at happend
  exact happend

lemma eq_of_binaryName_eq {v : CompilationUnit} {names' : List String} (hne : names ≠ []) (hne' : names' ≠ [])
    (hdot : ∀ n ∈ names, '.' ∉ n.toList) (hdot' : ∀ n ∈ names', '.' ∉ n.toList) (hdollar : ∀ n ∈ names, '$' ∉ n.toList)
    (hdollar' : ∀ n ∈ names', '$' ∉ n.toList) (h : u.binaryName names = v.binaryName names') :
    (FileScope.ofUnit u).package = (FileScope.ofUnit v).package ∧ names = names' := by
  have hsegments := congrArg Java.segments h
  rw [segments_binaryName hne hdot, segments_binaryName hne' hdot'] at hsegments
  obtain ⟨hpackage, hlast⟩ := List.append_inj' hsegments rfl
  constructor
  · rw [← FileScope.intercalate_packageSegments, hpackage, FileScope.intercalate_packageSegments]
  · have hnames := congrArg (Text.splitAt '$') (List.singleton_inj.1 hlast)
    have hback := Text.splitAt_intercalate '$' hne' hdollar'
    exact (Text.splitAt_intercalate '$' hne hdollar).symm.trans (hnames.trans hback)

end Conventional

section Index

variable {units : List CompilationUnit} {u : CompilationUnit} {names : List String} {header : Header}

/-- By the convention a type has the name that it is indexed under. -/
theorem conventionalBinaryName_canonicalName (hu : u.IsConventional) (hdot : u.NamesAvoid '.')
    (h : u.Declares names header) : Java.conventionalBinaryName (u.canonicalName names) = u.binaryName names := by
  have hplain := hdot names header h
  obtain ⟨top, nested, rfl, htop⟩ := hu.exists_cons h
  rw [Java.conventionalBinaryName, segments_canonicalName (by simp) hplain,
    Java.splitAtCapital_append hu.packageSegments htop, binaryName_eq_nestedName]

variable (hconventional : ∀ u ∈ units, u.IsConventional) (hdot : ∀ u ∈ units, u.NamesAvoid '.')
include hconventional hdot

/-- No indexed type has a type of one of the files for its package. -/
lemma not_contains_nestedName {top last : String} {outer nested : List String} (htop : Java.isCapitalized top = true)
    (hplain : ∀ n ∈ top :: outer ++ last :: nested, '.' ∉ n.toList) :
    (Index.ofUnits units).contains
      (Java.nestedName ((FileScope.ofUnit u).packageSegments ++ top :: outer ++ [last]) nested) = false := by
  by_contra hcontains
  rw [Bool.not_eq_false, contains_ofUnits] at hcontains
  obtain ⟨v, hv, names, header, hdeclares, heq⟩ := hcontains
  have hsegments := congrArg Java.segments heq
  rw [segments_nestedName hplain, segments_binaryName ((hconventional v hv).ne_nil hdeclares)
    (hdot v hv names header hdeclares)] at hsegments
  have hpackage := (List.append_inj' hsegments rfl).1
  have hmem : top ∈ (FileScope.ofUnit v).packageSegments := by simp [← hpackage]
  simp [(hconventional v hv).packageSegments top hmem] at htop

/-- Of the cuts of a canonical name none before the right one is indexed, as each of them puts a type among the
packages. -/
theorem binaryName?_canonicalName (hu : u ∈ units) (h : u.Declares names header) :
    (Index.ofUnits units).binaryName? (u.canonicalName names) = some (u.binaryName names) := by
  have hplain := hdot u hu names header h
  have hhit : (Index.ofUnits units).contains (u.binaryName names) = true :=
    contains_ofUnits.2 ⟨u, hu, names, header, h, rfl⟩
  obtain ⟨top, nested, rfl, htop⟩ := (hconventional u hu).exists_cons h
  rw [binaryName_eq_nestedName] at hhit ⊢
  refine binaryName?_eq_some ?_ (by simp) hhit fun outer last after hnested => ?_
  · rw [segments_canonicalName (by simp) hplain, List.append_assoc, List.singleton_append]
  · subst hnested
    rw [List.append_assoc _ [top], List.singleton_append]
    exact not_contains_nestedName hconventional hdot htop hplain

end Index

/-! ## Names that are looked for -/

/-- Character by character the names are the same, except that a dollar sign may stand for a dot. -/
def IsBinaryForm (canonical name : String) : Prop :=
  List.Forall₂ (fun c d => d = c ∨ c = '.' ∧ d = '$') canonical.toList name.toList

namespace IsBinaryForm

lemma refl (s : String) : IsBinaryForm s s :=
  List.forall₂_same.2 fun _ _ => .inl rfl

lemma append {s s' t t' : String} (h : IsBinaryForm s t) (h' : IsBinaryForm s' t') :
    IsBinaryForm (s ++ s') (t ++ t') := by
  rw [IsBinaryForm, String.toList_append, String.toList_append]
  exact List.rel_append h h'

lemma join (parts : List String) :
    IsBinaryForm (String.join (parts.map ("." ++ ·))) (String.join (parts.map ("$" ++ ·))) := by
  induction parts with
  | nil => exact .refl ""
  | cons part parts ih =>
    have hsign : IsBinaryForm "." "$" := .cons (.inr ⟨rfl, rfl⟩) .nil
    rw [List.map_cons, List.map_cons, String.join_cons, String.join_cons]
    exact (hsign.append (.refl part)).append ih

end IsBinaryForm

lemma isBinaryForm_of_mem_binaryNames {canonical name : String} (h : name ∈ Index.binaryNames canonical) :
    IsBinaryForm canonical name := by
  obtain ⟨count, hcount, rfl⟩ := List.mem_map.1 h
  set parts := Java.segments canonical with hparts
  have hne : parts.take (parts.length - count) ≠ [] := by
    rw [← List.length_pos_iff, List.length_take]
    have := List.mem_range.1 hcount
    omega
  have hcanonical := intercalate_segments canonical
  rw [← hparts, ← List.take_append_drop (parts.length - count) parts, Text.intercalate_append_join hne] at hcanonical
  rw [Java.nestedName_eq]
  nth_rewrite 1 [← hcanonical]
  exact (IsBinaryForm.refl _).append (.join _)

theorem contains_of_binaryName? {index : Index} {canonical name : String}
    (h : index.binaryName? canonical = some name) :
    index.contains name = true ∧ IsBinaryForm canonical name :=
  ⟨List.find?_some h, isBinaryForm_of_mem_binaryNames (List.mem_of_find?_eq_some h)⟩

/-! ## Names of declared types -/

/-- In an index of files that follow the convention, a declared type is found under the name of its package and the
names that lead to it, and both ways to tell a binary name from a canonical one come to this name. -/
theorem binaryName_of_declared :
    (∀ tree roots index, (Sources.ofRoots tree roots).result = .ok index →
      index = Index.ofUnits (unitsBelow tree roots) ∧ ∀ u ∈ unitsBelow tree roots, u.NamesAvoid '.') ∧
    (∀ units : List CompilationUnit, (∀ u ∈ units, u.IsConventional ∧ u.NamesAvoid '.' ∧ u.NamesAvoid '$') →
      ∀ u ∈ units, ∀ names header, u.Declares names header →
        (∃ t, (Index.ofUnits units).find? (u.binaryName names) = some t ∧
          ∃ v ∈ units, (FileScope.ofUnit v).package = (FileScope.ofUnit u).package ∧ v.Declares names t.header) ∧
        (Index.ofUnits units).binaryName? (u.canonicalName names) = some (u.binaryName names) ∧
        Java.conventionalBinaryName (u.canonicalName names) = u.binaryName names) ∧
    ∀ (index : Index) (canonical name : String), index.binaryName? canonical = some name →
      index.contains name = true ∧ IsBinaryForm canonical name := by
  refine ⟨fun tree roots index h => ?_, fun units hunits u hu names header h => ?_, fun index canonical name h => ?_⟩
  · exact ⟨result_ofRoots h, fun u hu => namesAvoid_of_mem_unitsBelow (by decide) hu⟩
  · have hconventional : ∀ u ∈ units, u.IsConventional := fun u hu => (hunits u hu).1
    have hdot : ∀ u ∈ units, u.NamesAvoid '.' := fun u hu => (hunits u hu).2.1
    have hcontains : (Index.ofUnits units).contains (u.binaryName names) = true :=
      contains_ofUnits.2 ⟨u, hu, names, header, h, rfl⟩
    refine ⟨?_, binaryName?_canonicalName hconventional hdot hu h,
      conventionalBinaryName_canonicalName (hconventional u hu) (hdot u hu) h⟩
    obtain ⟨t, ht⟩ := Option.isSome_iff_exists.1 hcontains
    obtain ⟨v, hv, names', hdeclares, heq⟩ := exists_of_find?_ofUnits ht
    obtain ⟨hpackage, rfl⟩ := eq_of_binaryName_eq ((hconventional u hu).ne_nil h)
      ((hconventional v hv).ne_nil hdeclares) (hdot u hu names header h) (hdot v hv names' _ hdeclares) ((hunits u hu).2.2 names header h)
      ((hunits v hv).2.2 names' _ hdeclares) heq
    exact ⟨t, ht, v, hv, hpackage.symm, hdeclares⟩
  · exact contains_of_binaryName? h

/-- A file of a package with a type in a type in a type. -/
def mapUnit : CompilationUnit where
  package := ["java", "util"]
  types := [.mk { kind := .interfaceType, name := "Map" }
    [.mk { kind := .interfaceType, name := "Entry" } [.mk { kind := .enumType, name := "Order" } []]]]

theorem binaryName_of_declared_mapUnit :
    (∀ u ∈ [mapUnit], u.IsConventional ∧ u.NamesAvoid '.' ∧ u.NamesAvoid '$') ∧
    mapUnit.Declares ["Map", "Entry", "Order"] { kind := .enumType, name := "Order" } ∧
    (Index.ofUnits [mapUnit]).binaryName? "java.util.Map.Entry.Order" = some "java.util.Map$Entry$Order" ∧
    Java.conventionalBinaryName "java.util.Map.Entry.Order" = "java.util.Map$Entry$Order" := by
  have hunits : ∀ u ∈ [mapUnit], u.IsConventional ∧ u.NamesAvoid '.' ∧ u.NamesAvoid '$' := by
    rw [List.forall_mem_singleton]
    refine ⟨⟨by decide, by simp [mapUnit]; decide⟩, ?_, ?_⟩ <;>
      simp [CompilationUnit.namesAvoid_iff, TypeDeclaration.namesAvoid_mk, mapUnit]
  have hdeclares : mapUnit.Declares ["Map", "Entry", "Order"] { kind := .enumType, name := "Order" } := by
    refine ⟨_, List.mem_singleton.2 rfl, .inside (List.mem_singleton.2 rfl) ?_⟩
    exact .inside (List.mem_singleton.2 rfl) (.here _)
  obtain ⟨-, hlookup, hconvention⟩ := binaryName_of_declared.2.1 [mapUnit] hunits mapUnit (by simp) _ _ hdeclares
  exact ⟨hunits, hdeclares, hlookup, hconvention⟩

end Source

end Typings
