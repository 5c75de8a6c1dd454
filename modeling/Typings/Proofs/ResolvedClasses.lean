import Mathlib.Data.List.Basic
import Typings.Proofs.ConvertedTypes

/-!
# Conversion and resolved classes

A conversion maps the types of a class's members one after the other. Which classes are resolved at that time decides
only which of the noted references are left to be generated: the members, the text of the module and the cause of a
failure do not depend on it.
-/

namespace Typings.Conversion

variable {α β : Type}

/-! ## Noted references -/

namespace References

/-- The same references, of which those to classes outside `resolved` are left. -/
def resolving (resolved : List String) (r : References) : References :=
  { r with unresolved := r.all.filter (· ∉ resolved) }

lemma add_resolving (resolved old : List String) (name : String) (r : References) :
    (r.resolving resolved).add resolved name = (r.add old name).resolving resolved := by
  by_cases hall : name ∈ r.all
  · simp [add, resolving, hall]
  · by_cases hres : name ∈ resolved
    · simp [add, resolving, hall, hres]
    · simp [add, resolving, hall, hres]

lemma addMapped_resolving (resolved old : List String) (m : Mapped) (r : References) :
    (r.resolving resolved).addMapped resolved m = (r.addMapped old m).resolving resolved := by
  cases hm : m.reference? with
  | none => simp [addMapped, hm, resolving]
  | some name =>
    have hadd := add_resolving resolved old name r
    simp only [addMapped, hm, hadd]
    rfl

lemma addAll_resolving (resolved old : List String) (mapped : List Mapped) (r : References) :
    (r.resolving resolved).addAll resolved mapped = (r.addAll old mapped).resolving resolved := by
  induction mapped generalizing r with
  | nil => rfl
  | cons m mapped ih =>
    simp only [addAll, List.foldl_cons] at ih ⊢
    rw [addMapped_resolving resolved old, ih]

end References

/-! ## Conversions that map a fixed list of types -/

/-- The conversion comes to `result` after it has mapped the types in `mapped`, whatever is resolved and whatever was
noted before. -/
def Maps (f : List String → Converter α) (result : Except UnsupportedType α) (mapped : List Mapped) : Prop :=
  ∀ resolved r, f resolved r = match result with
    | .ok a => .ok a (r.addAll resolved mapped)
    | .error e => .error e (r.addAll resolved mapped)

/-- The course of the conversion is the same for all resolved classes. -/
def Uniform (f : List String → Converter α) : Prop :=
  ∃ result mapped, Maps f result mapped

lemma Converts.uniform {self : String} {uses : List TypeUse} {f : List String → Converter α} {Q : List Mapped → α → Prop}
    (h : Converts self uses f Q) : Uniform f := by
  unfold Converts at h
  split at h
  · obtain ⟨a, -, hf⟩ := h
    exact ⟨.ok a, _, hf⟩
  · obtain ⟨mapped, hf⟩ := h
    exact ⟨.error _, mapped, hf⟩

/-! ## The conversion of a class -/

lemma uniform_convertMembers (className : String) (info : Java.ClassInfo) :
    Uniform fun resolved => convertMembers ⟨className, resolved⟩ info :=
  (converts_convertMembers className info).uniform

/-- The classes that are noted while the members of a class are converted, also when that fails. -/
def referredBy (info : Java.ClassInfo) : List String :=
  match convertMembers ⟨info.name, []⟩ info {} with
  | .ok _ r => r.all
  | .error _ r => r.all

/-- The same class, of whose references those to classes outside `resolved` are left. -/
def Converted.resolving (resolved : List String) (c : Converted) : Converted :=
  { c with references := c.references.resolving resolved }

/-- Resolved classes decide only which references are left. -/
theorem convertClass_resolved (info : Java.ClassInfo) (resolved : List String) :
    convertClass info resolved = (convertClass info []).map (Converted.resolving resolved) := by
  obtain ⟨result, mapped, hmaps⟩ := uniform_convertMembers info.name info
  have hrefs := References.addAll_resolving resolved [] mapped {}
  have hresolved := hmaps resolved {}
  have hnone := hmaps [] {}
  cases result with
  | error e => simp only [convertClass, hresolved, hnone, Except.map]
  | ok members =>
    simp only [convertClass, hresolved, hnone, Except.map, Converted.resolving, ← hrefs]
    rfl

/-- A conversion depends only on which classes are resolved, not on their order. -/
lemma convertClass_congr {resolved resolved' : List String} (hsame : ∀ c, c ∈ resolved' ↔ c ∈ resolved)
    (info : Java.ClassInfo) : convertClass info resolved' = convertClass info resolved := by
  have hresolving : Converted.resolving resolved' = Converted.resolving resolved := by
    funext c
    simp only [Converted.resolving, References.resolving, hsame]
  rw [convertClass_resolved, hresolving, ← convertClass_resolved]

theorem convertClass_ok {info : Java.ClassInfo} {resolved : List String} {c : Converted}
    (h : convertClass info resolved = .ok c) :
    c.info = info ∧ c.references.all = referredBy info ∧
      c.references.unresolved = (referredBy info).filter (· ∉ resolved) := by
  rw [convertClass_resolved] at h
  cases hmembers : convertMembers ⟨info.name, []⟩ info {} with
  | error e r => simp [convertClass, hmembers, Except.map] at h
  | ok members r =>
    simp only [convertClass, hmembers, Except.map, Except.ok.injEq] at h
    subst h
    simp [Converted.resolving, References.resolving, referredBy, hmembers]

end Typings.Conversion
