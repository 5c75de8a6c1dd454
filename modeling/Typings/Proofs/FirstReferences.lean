import Typings.Conversion.References
import Typings.Proofs.DeclaredMembers

/-!
# First references

References to classes are noted one by one, while further classes may become resolved in between. What is left to be
generated is decided by the first reference to a class: later references to it change nothing, and neither does resolving
the class afterwards.
-/

namespace Typings.Conversion

/-- Something that happens while references are noted. -/
inductive Happening
  | referred (name : String)
  | resolved (name : String)
  deriving DecidableEq, Repr

/-- The class that is referred to. -/
def Happening.reference? : Happening → Option String
  | referred name => some name
  | resolved _ => none

/-- The class that becomes resolved. -/
def Happening.resolution? : Happening → Option String
  | referred _ => none
  | resolved name => some name

/-- The classes that are resolved and the references that are noted. -/
structure Notes where
  resolved : List String
  references : References := {}

namespace Notes

/-- The notes after one more happening. -/
def next (n : Notes) : Happening → Notes
  | .referred name => { n with references := n.references.add n.resolved name }
  | .resolved name => { n with resolved := n.resolved ++ [name] }

/-- The notes after a course of happenings, from no references on. -/
def after (resolved : List String) (course : List Happening) : Notes :=
  course.foldl next { resolved := resolved }

/-- The classes that are resolved when a class is first referred to. -/
def resolvedBefore (resolved : List String) (course : List Happening) (name : String) : List String :=
  resolved ++ (course.takeWhile (· ≠ .referred name)).filterMap Happening.resolution?

section Courses

variable {resolved : List String} {course : List Happening} {name : String}

lemma after_concat (h : Happening) : after resolved (course ++ [h]) = (after resolved course).next h := by
  rw [after, List.foldl_append]
  rfl

lemma resolved_after : (after resolved course).resolved = resolved ++ course.filterMap Happening.resolution? := by
  induction course using List.reverseRecOn with
  | nil => exact (List.append_nil resolved).symm
  | append_singleton course h ih =>
    rw [after_concat, List.filterMap_append]
    cases h with
    | referred name =>
      rw [next, ih]
      simp [Happening.resolution?]
    | resolved name =>
      rw [next, ih]
      simp [Happening.resolution?]

/-- What comes after the first reference does not matter. -/
lemma resolvedBefore_append (h : .referred name ∈ course) (later : List Happening) :
    resolvedBefore resolved (course ++ later) name = resolvedBefore resolved course name := by
  obtain ⟨before, rest, rfl, hbefore⟩ := List.eq_append_cons_of_mem h
  have hall : ∀ x ∈ before, decide (x ≠ .referred name) = true := by
    intro x hx
    rw [decide_eq_true_eq]
    rintro rfl
    exact hbefore hx
  rw [resolvedBefore, resolvedBefore, List.append_assoc, List.takeWhile_append_of_pos hall,
    List.takeWhile_append_of_pos hall]
  simp

lemma resolvedBefore_of_notMem (h : .referred name ∉ course) :
    resolvedBefore resolved (course ++ [.referred name]) name = (after resolved course).resolved := by
  have hall : ∀ x ∈ course, decide (x ≠ .referred name) = true := by
    intro x hx
    rw [decide_eq_true_eq]
    rintro rfl
    exact h hx
  rw [resolvedBefore, resolved_after, List.takeWhile_append_of_pos hall]
  simp

/-- Nothing is taken off the resolved classes. -/
lemma resolvedBefore_subset : resolvedBefore resolved course name ⊆ (after resolved course).resolved := by
  have hbefore : course.takeWhile (· ≠ .referred name) ⊆ course := (List.takeWhile_sublist _).subset
  rw [resolved_after, resolvedBefore]
  refine List.append_subset.2 ⟨List.subset_append_left _ _, ?_⟩
  exact List.Subset.trans (List.filterMap_subset _ hbefore) (List.subset_append_right _ _)

end Courses

/-- Each class is noted where it is first referred to, and is left unless it is resolved at that moment. -/
structure IsByFirst (resolved : List String) (course : List Happening) (r : References) : Prop where
  all : r.all = (course.filterMap Happening.reference?).eraseDups
  unresolved : r.unresolved = r.all.filter fun name => name ∉ resolvedBefore resolved course name

namespace IsByFirst

variable {resolved : List String} {course : List Happening} {r : References} {name : String}

lemma mem_all (h : IsByFirst resolved course r) : name ∈ r.all ↔ .referred name ∈ course := by
  rw [h.all, List.mem_eraseDups, List.mem_filterMap]
  constructor
  · rintro ⟨_ | _, hmem, heq⟩
    · cases heq
      exact hmem
    · cases heq
  · exact fun hmem => ⟨_, hmem, rfl⟩

/-- The classes noted so far are left or not as before, whatever happens next. -/
lemma unresolved_append (h : IsByFirst resolved course r) (later : List Happening) :
    r.unresolved = r.all.filter fun name => name ∉ resolvedBefore resolved (course ++ later) name := by
  rw [h.unresolved]
  refine List.filter_congr fun name hname => ?_
  rw [resolvedBefore_append (h.mem_all.1 hname)]

lemma resolves (h : IsByFirst resolved course r) (name : String) :
    IsByFirst resolved (course ++ [.resolved name]) r where
  all := by
    rw [h.all, List.filterMap_append, List.filterMap_cons_none rfl, List.filterMap_nil, List.append_nil]
  unresolved := h.unresolved_append _

/-- A class that was referred to before is noted already, and left unless it is resolved by now. -/
lemma referred_again (h : IsByFirst resolved course r) (hname : .referred name ∈ course) :
    r.add (after resolved course).resolved name = r := by
  have hall : name ∈ r.all := h.mem_all.2 hname
  have hleft : name ∈ (after resolved course).resolved ∨ name ∈ r.unresolved := by
    by_cases hnow : name ∈ (after resolved course).resolved
    · exact .inl hnow
    · rw [h.unresolved, List.mem_filter, decide_eq_true_eq]
      exact .inr ⟨hall, fun hbefore => hnow (resolvedBefore_subset hbefore)⟩
  rw [References.add, if_pos hall, if_pos hleft]

lemma refers (h : IsByFirst resolved course r) (name : String) :
    IsByFirst resolved (course ++ [.referred name]) (r.add (after resolved course).resolved name) := by
  have hreferences : (course ++ [Happening.referred name]).filterMap Happening.reference? =
      course.filterMap Happening.reference? ++ [name] := by
    rw [List.filterMap_append]
    rfl
  have hmem : name ∈ course.filterMap Happening.reference? ↔ .referred name ∈ course := by
    rw [← h.mem_all, h.all, List.mem_eraseDups]
  -- Only a first reference adds the class, at the end of all and, unless it is resolved by now, of what is left.
  by_cases hname : .referred name ∈ course
  · rw [h.referred_again hname]
    refine ⟨?_, h.unresolved_append _⟩
    rw [h.all, hreferences, eraseDups_concat, if_pos (hmem.2 hname)]
  · have hall : name ∉ r.all := fun hin => hname (h.mem_all.1 hin)
    have hunresolved : name ∉ r.unresolved := by
      rw [h.unresolved]
      exact fun hin => hall (List.mem_filter.1 hin).1
    have hadded : (r.add (after resolved course).resolved name).all = r.all ++ [name] := by
      rw [References.add, if_neg hall]
    have hleft : (r.add (after resolved course).resolved name).unresolved =
        r.unresolved ++ [name].filter (· ∉ (after resolved course).resolved) := by
      by_cases hnow : name ∈ (after resolved course).resolved
      · simp [References.add, hnow]
      · simp [References.add, hunresolved, hnow]
    refine ⟨?_, ?_⟩
    · rw [hadded, hreferences, eraseDups_concat, if_neg (mt hmem.1 hname), h.all]
    · rw [hadded, hleft, List.filter_append, ← h.unresolved_append, List.filter_singleton, List.filter_singleton,
        resolvedBefore_of_notMem hname]

end IsByFirst

lemma isByFirst_after (resolved : List String) (course : List Happening) :
    IsByFirst resolved course (after resolved course).references := by
  induction course using List.reverseRecOn with
  | nil => exact ⟨rfl, rfl⟩
  | append_singleton course h ih =>
    rw [after_concat]
    cases h with
    | referred name => exact ih.refers name
    | resolved name => exact ih.resolves name

/-- The classes are noted in the order of their first references; those that are left are the ones among them that are not
resolved when they are first referred to. -/
theorem references_by_first (resolved : List String) (course : List Happening) :
    (after resolved course).references.all = (course.filterMap Happening.reference?).eraseDups ∧
      (after resolved course).references.unresolved =
        (after resolved course).references.all.filter fun name => name ∉ resolvedBefore resolved course name := by
  obtain ⟨hall, hunresolved⟩ := isByFirst_after resolved course
  exact ⟨hall, hunresolved⟩

example : (after ["a.B"] [.referred "b.C", .resolved "b.C", .referred "a.B", .referred "b.C", .resolved "b.D",
    .referred "b.D"]).references = { all := ["b.C", "a.B", "b.D"], unresolved := ["b.C"] } := by
  decide

end Notes

end Typings.Conversion
