import Typings.Proofs.Actions
import Typings.Proofs.ModulePaths
import Typings.Source.Client

/-!
# Names in sources and what is asked for them

A name is resolved in the same way by two clients whose probes agree, and only the names of classes that are not indexed
are probed: under an import on demand the conventional name is one of those that were looked for in the index before.
-/

namespace Typings

namespace Source

open Typings.Action (Alike)

/-! ## Conventional names -/

lemma intercalate_segments (name : String) : ".".intercalate (Java.segments name) = name := by
  apply String.toList_inj.1
  rw [String.toList_intercalate]
  exact Text.intercalate_splitAt '.' name

lemma append_of_splitAtCapital {parts outer nested : List String} (h : Java.splitAtCapital parts = some (outer, nested)) :
    outer ++ nested = parts ∧ outer ≠ [] := by
  induction parts generalizing outer with
  | nil => cases h
  | cons part parts ih =>
    rw [Java.splitAtCapital] at h
    split at h
    · cases h
      exact ⟨rfl, by simp⟩
    · obtain ⟨⟨outer', nested'⟩, hsplit, heq⟩ := Option.map_eq_some_iff.1 h
      cases heq
      exact ⟨congrArg _ (ih hsplit).1, by simp⟩

/-- Any cut of the segments of a name, the first part not being empty, gives one of its binary names. -/
lemma mem_binaryNames {name : String} {outer nested : List String} (hsplit : outer ++ nested = Java.segments name)
    (hne : outer ≠ []) : Java.nestedName outer nested ∈ Index.binaryNames name := by
  have hpos := List.length_pos_iff.2 hne
  have hlength : (Java.segments name).length = outer.length + nested.length := by
    rw [← hsplit, List.length_append]
  refine List.mem_map.2 ⟨nested.length, List.mem_range.2 (by omega), ?_⟩
  have hcut : (Java.segments name).length - nested.length = outer.length := by omega
  rw [hcut, ← hsplit, List.take_left, List.drop_left]

/-- The conventional name is among the names that are looked for. -/
theorem conventionalBinaryName_mem (name : String) : Java.conventionalBinaryName name ∈ Index.binaryNames name := by
  rw [Java.conventionalBinaryName]
  cases hsplit : Java.splitAtCapital (Java.segments name) with
  | some parts =>
    obtain ⟨happend, hne⟩ := append_of_splitAtCapital hsplit
    exact mem_binaryNames happend hne
  | none =>
    have hwhole := mem_binaryNames (List.append_nil (Java.segments name)) (Text.splitAt_ne_nil '.' name)
    have hname : Java.nestedName (Java.segments name) [] = name := by
      simp [Java.nestedName, intercalate_segments]
    rwa [hname] at hwhole

lemma contains_conventionalBinaryName {index : Index} {name : String} (h : index.binaryName? name = none) :
    index.contains (Java.conventionalBinaryName name) = false := by
  have hnone := List.find?_eq_none.1 h _ (conventionalBinaryName_mem name)
  simpa using hnone

lemma binaryName?_of_resolve? {index : Index} {scope : SourceType} {name p : String}
    (h : index.resolve? scope name = none) (hp : p ∈ scope.file.onDemand) :
    index.binaryName? (p ++ "." ++ name) = none := by
  simp only [Index.resolve?, Option.orElse_eq_orElse, Option.orElse_eq_or, Option.or_eq_none_iff] at h
  exact List.findSome?_eq_none_iff.1 h.2.2.2.1 p hp

/-! ## Two ways of probing -/

section Probing

variable {σ τ : Type} {rel : Session σ → Session τ → Prop} {index : Index} {probe : Probe σ} {probe' : Probe τ}

lemma firstKnown?_alike {name : String} {ps : List String}
    (hprobe : ∀ p ∈ ps, Alike rel (probe (Java.conventionalBinaryName (p ++ "." ++ name)))
      (probe' (Java.conventionalBinaryName (p ++ "." ++ name)))) :
    Alike rel (firstKnown? probe name ps) (firstKnown? probe' name ps) := by
  induction ps with
  | nil => exact .pure none
  | cons p ps ih =>
    refine (hprobe p List.mem_cons_self).bind fun known => ?_
    cases known with
    | true => exact .pure _
    | false => exact ih fun q hq => hprobe q (List.mem_cons_of_mem _ hq)

variable (hprobe : ∀ c, index.contains c = false → Alike rel (probe c) (probe' c))
include hprobe

/-- Only names of classes that are not indexed are probed. -/
lemma resolveSimple_alike (scope : SourceType) (name : String) :
    Alike rel (resolveSimple index probe scope name) (resolveSimple index probe' scope name) := by
  unfold resolveSimple
  cases hresolve : index.resolve? scope name with
  | some resolved => exact .pure resolved
  | none =>
    refine (firstKnown?_alike fun p hp => ?_).bind fun known => .pure _
    exact hprobe _ (contains_conventionalBinaryName (binaryName?_of_resolve? hresolve hp))

lemma resolveName_alike (scope : SourceType) (parts : List String) :
    Alike rel (resolveName index probe scope parts) (resolveName index probe' scope parts) := by
  unfold resolveName
  dsimp only
  split
  · exact .pure _
  · exact (resolveSimple_alike hprobe scope _).bind fun first => .pure _

lemma typeName_alike (scope : SourceType) (vars : TypeVariables) (t : TypeUse) :
    Alike rel (typeName index probe scope vars t) (typeName index probe' scope vars t) := by
  unfold typeName
  dsimp only
  cases (erase vars t).head? with
  | none => exact .pure _
  | some head =>
    cases head with
    | basic name => exact .pure _
    | named parts => exact (resolveName_alike hprobe scope parts).bind fun element => .pure _

end Probing

/-! ## Two ways of naming -/

section Naming

variable {σ τ : Type} {rel : Session σ → Session τ → Prop} {naming : Naming σ} {naming' : Naming τ}
  (hnaming : ∀ vars u, Alike rel (naming vars u) (naming' vars u))
include hnaming

lemma parameterTypes_alike (vars : TypeVariables) (ps : List Parameter) :
    Alike rel (parameterTypes naming vars ps) (parameterTypes naming' vars ps) :=
  .mapM fun p _ => (hnaming vars p.type).bind fun type => by
    cases p.isVariadic <;> exact .pure _

lemma convertMember_alike (t : SourceType) (m : Member) :
    Alike rel (convertMember naming t m) (convertMember naming' t m) := by
  cases m with
  | field keywords type declarators => exact (hnaming _ type).bind fun base => .pure _
  | method keywords typeParameters returnType? name parameters =>
    refine (parameterTypes_alike hnaming _ parameters).bind fun types => ?_
    cases returnType? with
    | none => exact .pure _
    | some type => exact (hnaming _ type).bind fun returnType => .pure _
  | constructor keywords parameters => exact (parameterTypes_alike hnaming _ parameters).bind fun types => .pure _

lemma convertMembers_alike (t : SourceType) (ms : List Member) :
    Alike rel (convertMembers naming t ms) (convertMembers naming' t ms) := by
  induction ms with
  | nil => exact .pure _
  | cons m ms ih => exact (convertMember_alike hnaming t m).bind fun first => ih.bind fun rest => .pure _

lemma supertypeNames_alike (t : SourceType) : Alike rel (supertypeNames naming t) (supertypeNames naming' t) := by
  have hnamed : ∀ ts : List TypeUse,
      Alike rel (ts.mapM (naming t.typeVariables)) (ts.mapM (naming' t.typeVariables)) :=
    fun ts => .mapM fun u _ => hnaming _ u
  unfold supertypeNames
  dsimp only
  cases t.header.kind with
  | interfaceType => exact hnamed _
  | enumType => exact (hnamed _).bind fun names => .pure _
  | classType =>
    cases t.header.extended with
    | nil => exact (hnamed _).bind fun names => .pure _
    | cons u us => exact (hnamed (u :: us)).bind fun first => (hnamed _).bind fun names => .pure _

end Naming

end Source

end Typings
