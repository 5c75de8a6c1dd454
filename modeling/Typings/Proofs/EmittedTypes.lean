import Typings.Proofs.ResolvedClasses

/-!
# The types of emitted members

A conversion that succeeds emits every type that it maps, in the order in which it maps them, as it is or as the type of a
promise, and it notes what these types refer to and nothing else.
-/

namespace Typings.Conversion

open TypeScript (TypeNode Member)

/-! ## What is noted -/

namespace References

variable {resolved : List String} {r : References} {mapped : List Mapped}

lemma mem_all_addMapped {m : Mapped} {name : String} :
    name ∈ (r.addMapped resolved m).all ↔ name ∈ r.all ∨ m.reference? = some name := by
  cases hm : m.reference? with
  | none => simp [addMapped, hm]
  | some other =>
    by_cases hin : other ∈ r.all
    · simp only [addMapped, hm, add, hin, if_true, Option.some.injEq, iff_self_or]
      rintro rfl
      exact hin
    · simp [addMapped, hm, add, hin, eq_comm]

lemma usesBasicType_addMapped {m : Mapped} :
    (r.addMapped resolved m).usesBasicType ↔ r.usesBasicType ∨ m.usesBasicType := by
  cases hm : m.reference? <;> simp [addMapped, hm, add]

lemma nodup_all_addMapped {m : Mapped} (h : r.all.Nodup) : (r.addMapped resolved m).all.Nodup := by
  cases hm : m.reference? with
  | none => simpa [addMapped, hm] using h
  | some name =>
    by_cases hin : name ∈ r.all
    · simpa [addMapped, hm, add, hin] using h
    · simp only [addMapped, hm, add, hin, if_false]
      refine List.nodup_append.2 ⟨h, by simp, fun c hc d hd heq => hin ?_⟩
      rwa [← List.mem_singleton.1 hd, ← heq]

lemma mem_all_addAll {name : String} :
    name ∈ (r.addAll resolved mapped).all ↔ name ∈ r.all ∨ ∃ m ∈ mapped, m.reference? = some name := by
  induction mapped generalizing r with
  | nil => simp [addAll]
  | cons m mapped ih =>
    change name ∈ ((r.addMapped resolved m).addAll resolved mapped).all ↔ _
    rw [ih, mem_all_addMapped, List.exists_mem_cons_iff, or_assoc]

lemma usesBasicType_addAll :
    (r.addAll resolved mapped).usesBasicType ↔ r.usesBasicType ∨ ∃ m ∈ mapped, m.usesBasicType := by
  induction mapped generalizing r with
  | nil => simp [addAll]
  | cons m mapped ih =>
    change ((r.addMapped resolved m).addAll resolved mapped).usesBasicType = true ↔ _
    rw [ih, usesBasicType_addMapped, List.exists_mem_cons_iff, or_assoc]

lemma nodup_all_addAll (h : r.all.Nodup) : (r.addAll resolved mapped).all.Nodup := by
  induction mapped generalizing r with
  | nil => exact h
  | cons m mapped ih => exact ih (nodup_all_addMapped h)

end References

/-! ## What is emitted -/

/-- The type stands for some Java type in the module of the class `self`. -/
def IsMapped (self : String) (m : Mapped) : Prop :=
  ∃ typeName position allowNull, mapType self typeName position allowNull = .ok m

/-- Between the two moments of a conversion types are mapped, in this order, and `types` are emitted for them. -/
def Emits (self : String) (resolved : List String) (r r' : References) (types : List TypeNode) : Prop :=
  ∃ mapped : List Mapped, r' = r.addAll resolved mapped ∧ (∀ m ∈ mapped, IsMapped self m) ∧
    List.Forall₂ Delivers mapped types

/-- The members of a class are emitted with the types that are mapped while they are converted. -/
theorem emits_convertMembers {self : String} {resolved : List String} {r r' : References} {info : Java.ClassInfo}
    {members : List Member} (h : convertMembers ⟨self, resolved⟩ info r = .ok members r') :
    Emits self resolved r r' (members.flatMap Member.types) := by
  obtain ⟨mapped, hmapped, hemitted, hnoted⟩ := (converts_convertMembers self info).of_ok h
  have hall : List.Forall₂ (fun m u => IsMapped self m ∧ TypeUse.mapped self u = .ok m) mapped (memberUses self info) :=
    hmapped.flip.imp fun m u hu => ⟨⟨u.typeName, u.position, u.allowNull, hu⟩, hu⟩
  exact ⟨mapped, hnoted, ((List.forall₂_and_left _ _).1 hall).1, hemitted⟩

end Typings.Conversion
