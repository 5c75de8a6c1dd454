import Typings.Source.Index

/-!
# Erasure of type variables

A type variable stands for its first bound, and without bounds for the root of the class hierarchy. Within the bound of
a variable the variable itself is not known, so that erasure ends.
-/

namespace Typings.Source

/-- The type variables that are known somewhere, with their bounds. Of variables with one name the first one counts. -/
abbrev TypeVariables := List (String × List TypeUse)

/-- The variables of some type parameters, of which the last one of a name counts. -/
def typeVariables (ps : List TypeParameter) : TypeVariables :=
  (ps.map fun p => (p.name, p.bounds)).reverse

/-- The variables that are known in a type: its own, and those of the types around it. -/
def SourceType.typeVariables (t : SourceType) : TypeVariables :=
  t.chain.flatMap fun n => Source.typeVariables n.header.typeParameters

/-- A type whose name is not that of a type variable: the root of the class hierarchy, where no name is given. -/
structure ErasedType where
  head? : Option TypeHead
  rank : Nat
  deriving DecidableEq, Repr

/-- All variables except those of the given name. -/
def TypeVariables.without (vars : TypeVariables) (name : String) : TypeVariables :=
  vars.filter (·.1 ≠ name)

theorem TypeVariables.length_without_lt {vars : TypeVariables} {name : String} {bounds : List TypeUse}
    (h : vars.lookup name = some bounds) : (vars.without name).length < vars.length := by
  refine Nat.lt_of_le_of_ne (List.length_filter_le _ _) fun hl => ?_
  have hall := List.length_filter_eq_length_iff.1 hl
  obtain ⟨l₁, l₂, rfl, -⟩ := List.lookup_eq_some_iff.1 h
  simpa using hall (name, bounds) (by simp)

/-- Replaces a type variable by what it stands for. -/
def erase (vars : TypeVariables) (t : TypeUse) : ErasedType :=
  match t.head with
  | .named [name] =>
    match _h : vars.lookup name with
    | none => ⟨some t.head, t.rank⟩
    | some [] => ⟨none, t.rank⟩
    | some (bound :: _) =>
      let e := erase (TypeVariables.without vars name) bound
      { e with rank := e.rank + t.rank }
  | head => ⟨some head, t.rank⟩
termination_by vars.length
decreasing_by exact TypeVariables.length_without_lt _h

end Typings.Source
