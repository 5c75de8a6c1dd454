import Typings.Proofs.ModuleImports

/-!
# The classes left to be generated

What the members of a class refer to is noted in the order in which their types are mapped. Which classes are resolved at
that time has no influence on the module; it only takes the resolved ones off the list of classes left to be generated.
-/

namespace Typings.Conversion

open TypeScript (TypeNode Member Statement)

/-! ## The order of noted classes -/

namespace References

variable {resolved : List String} {r : References}

/-- A class is put at the end when it is first referred to. -/
lemma all_addMapped (m : Mapped) :
    (r.addMapped resolved m).all = r.all ++ m.reference?.toList.filter (· ∉ r.all) := by
  cases hm : m.reference? with
  | none => simp [addMapped, hm]
  | some name => by_cases hin : name ∈ r.all <;> simp [addMapped, hm, add, hin]

lemma all_addAll (mapped : List Mapped) :
    (r.addAll resolved mapped).all = r.all ++ ((mapped.filterMap (·.reference?)).filter (· ∉ r.all)).eraseDups := by
  induction mapped generalizing r with
  | nil => simp [addAll]
  | cons m mapped ih =>
    change ((r.addMapped resolved m).addAll resolved mapped).all = _
    rw [ih, all_addMapped]
    -- The first class is new or not; if it is, later references to it are duplicates.
    cases hm : m.reference? with
    | none => simp [hm]
    | some name =>
      by_cases hin : name ∈ r.all
      · simp [hm, hin]
      · simp [hm, hin, List.eraseDups_cons, List.filter_filter, Bool.and_comm, Bool.beq_eq_decide_eq]

end References

/-! ## The classes that members refer to -/

/-- The class that a use refers to, if any. -/
def TypeUse.class? (u : TypeUse) : Option String :=
  referredClass? u.typeName u.position

/-- The type is that of the use or of a promise of it. The class of the use is the only one that it refers to. -/
structure StandsFor (own : String) (u : TypeUse) (t : TypeNode) : Prop where
  delivered : ∃ m, u.mapped own = .ok m ∧ Delivers m t
  refers : ∀ className, u.class? = some className → shownName own u.position className ∈ t.names
  only : ∀ name ∈ t.names, name ∈ ["Promise", "Buffer", basicTypeName] ∨
    ∃ className, u.class? = some className ∧ name = shownName own u.position className

lemma standsFor_of_delivers {self : String} {u : TypeUse} {m : Mapped} {t : TypeNode} (hm : u.mapped self = .ok m)
    (ht : Delivers m t) : StandsFor self u t := by
  have hshows : Shows self u.position u.class? m := shows_of_mapType hm
  have hnames : ∀ name ∈ t.names, name = "Promise" ∨ name ∈ m.node.names := by
    rcases ht with rfl | rfl
    · exact fun _ => .inr
    · simp
  have hsub : m.node.names ⊆ t.names := by
    rcases ht with rfl | rfl
    · exact List.Subset.refl _
    · simp
  refine ⟨⟨m, hm, ht⟩, fun className hclass => hsub (by simp [hshows.shown className hclass]), fun name hname => ?_⟩
  rcases hnames name hname with rfl | hin
  · exact .inl List.mem_cons_self
  · cases hclass : u.class? with
    | none => exact .inl (by rcases hshows.others hclass name hin with rfl | ⟨rfl, -⟩ <;> simp)
    | some className =>
      rw [hshows.shown className hclass, List.mem_singleton] at hin
      exact .inr ⟨className, rfl, hin⟩

lemma filterMap_reference {self : String} {uses : List TypeUse} {mapped : List Mapped}
    (h : List.Forall₂ (fun u m => u.mapped self = .ok m) uses mapped) :
    mapped.filterMap (·.reference?) = uses.filterMap TypeUse.class? := by
  induction h with
  | nil => rfl
  | @cons u m _ _ hu _ ih =>
    have hreference : m.reference? = u.class? := (shows_of_mapType hu).reference
    simp only [List.filterMap_cons, hreference, ih]

lemma standsFor_types {self : String} {uses : List TypeUse} {mapped : List Mapped} {types : List TypeNode}
    (hmapped : List.Forall₂ (fun u m => u.mapped self = .ok m) uses mapped) (htypes : List.Forall₂ Delivers mapped types) :
    List.Forall₂ (StandsFor self) uses types := by
  induction htypes generalizing uses with
  | nil =>
    cases hmapped
    exact .nil
  | cons ht _ ih =>
    cases hmapped with
    | cons hm hrest => exact .cons (standsFor_of_delivers hm ht) (ih hrest)

/-- Resolved classes change neither the module nor the failure. The list of classes left to be generated has the classes
that the emitted types refer to, each once, in the order of the first references, without the resolved ones. -/
theorem convertClass_independent (info : Java.ClassInfo) (resolved resolved' : List String) :
    (convertClass info resolved).map (fun c => (c.info.name, c.contents)) =
        (convertClass info resolved').map (fun c => (c.info.name, c.contents)) ∧
      ∀ c, convertClass info resolved = .ok c →
        List.Forall₂ (StandsFor info.name) (memberUses info.name info)
          ((c.statements.flatMap Statement.members).flatMap Member.types) ∧
        c.references.unresolved =
          ((memberUses info.name info).filterMap TypeUse.class?).eraseDups.filter (· ∉ resolved) := by
  constructor
  · rw [convertClass_resolved info resolved, convertClass_resolved info resolved']
    cases convertClass info [] <;> rfl
  · intro c h
    obtain ⟨hinfo, hall, hunresolved⟩ := convertClass_ok h
    unfold convertClass at h
    split at h
    · rename_i members references hmembers
      cases h
      obtain ⟨mapped, hmapped, hemitted, rfl⟩ := (converts_convertMembers info.name info).of_ok hmembers
      refine ⟨?_, ?_⟩
      · rw [Converted.emittedTypes_eq]
        exact standsFor_types hmapped hemitted
      · rw [hunresolved, ← hall, References.all_addAll, filterMap_reference hmapped]
        simp
    · cases h

theorem convertClass_independent_list :
    ∃ c, convertClass listInfo ["p.Item"] = .ok c ∧
      List.Forall₂ (StandsFor "p.List") (memberUses "p.List" listInfo)
        ((c.statements.flatMap Statement.members).flatMap Member.types) ∧
      c.references.unresolved = ["java.lang.Integer", "p.List"] := by
  have hsome : (convertClass listInfo ["p.Item"]).toOption.isSome = true := by decide +kernel
  have hclasses : ((memberUses "p.List" listInfo).filterMap TypeUse.class?).eraseDups.filter (· ∉ ["p.Item"]) =
      ["java.lang.Integer", "p.List"] := by
    decide +kernel
  cases h : convertClass listInfo ["p.Item"] with
  | error e => simp [h, Except.toOption] at hsome
  | ok c =>
    obtain ⟨hstand, hunresolved⟩ := (convertClass_independent listInfo ["p.Item"] []).2 c h
    exact ⟨c, rfl, hstand, hunresolved.trans hclasses⟩

end Typings.Conversion
