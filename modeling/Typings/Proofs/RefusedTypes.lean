import Typings.Proofs.ConvertedTypes
import Typings.Proofs.DeclaredMembers
import Typings.Proofs.FirstMethods
import Typings.Proofs.MappedTypes

/-!
# Types that keep a class from being converted

A class is converted unless it needs a type that is not mapped, and then the first such type is the cause of the failure.
Types are needed by public members only, a field being hidden by an earlier one of its name and a constructor by the class
being abstract. That types are mapped repeatedly has no influence: what comes again was accepted before.
-/

namespace Typings.Conversion

/-- The types that are needed for the members of a class, in their order. A constructor also needs its class. -/
def neededTypes (info : Java.ClassInfo) : List String :=
  ((info.fields.eraseDupsBy fun f g => f.name == g.name).filter (·.modifiers.isPublic)).map (·.typeName) ++
    (methodsByName info.methods).flatMap (fun m => m.1.returnType :: m.1.parameters) ++
    if info.isAbstract then []
    else (info.constructors.filter (·.modifiers.isPublic)).flatMap fun c => info.name :: c.parameters

/-- The type is mapped wherever it stands. -/
def IsAccepted (self typeName : String) : Prop :=
  ∀ position allowNull, ∃ m, mapType self typeName position allowNull = .ok m

/-- The type is mapped nowhere, for the given cause. -/
def IsRefused (self typeName : String) (e : UnsupportedType) : Prop :=
  ∀ position allowNull, mapType self typeName position allowNull = .error e

/-! ## Failures and their causes -/

/-- The result is a failure for the given cause, and a success if there is none. -/
def FailsFor {α : Type} (result : Except UnsupportedType α) : Option UnsupportedType → Prop
  | none => ∃ a, result = .ok a
  | some e => result = .error e

namespace FailsFor

variable {α β : Type} {result : Except UnsupportedType α} {cause? cause'? : Option UnsupportedType}

lemma exists_ok_iff (h : FailsFor result cause?) : (∃ a, result = .ok a) ↔ cause? = none := by
  cases cause? with
  | none => exact ⟨fun _ => rfl, fun _ => h⟩
  | some e =>
    obtain rfl : result = .error e := h
    simp

lemma error_iff (h : FailsFor result cause?) {e : UnsupportedType} : result = .error e ↔ cause? = some e := by
  cases cause? with
  | none =>
    obtain ⟨a, rfl⟩ := h
    simp
  | some e' =>
    obtain rfl : result = .error e' := h
    simp

lemma mapM_cons {f : β → Except UnsupportedType α} {b : β} {bs : List β} (hfirst : FailsFor (f b) cause?)
    (hrest : FailsFor (bs.mapM f) cause'?) : FailsFor ((b :: bs).mapM f) (cause?.or cause'?) := by
  rw [List.mapM_cons]
  cases cause? with
  | some e =>
    obtain hfirst : f b = .error e := hfirst
    rw [hfirst]
    rfl
  | none =>
    obtain ⟨a, hfirst⟩ := hfirst
    rw [hfirst]
    cases cause'? with
    | some e =>
      obtain hrest : bs.mapM f = .error e := hrest
      rw [hrest]
      rfl
    | none =>
      obtain ⟨as, hrest⟩ := hrest
      exact ⟨a :: as, by rw [hrest]; rfl⟩

end FailsFor

/-! ## The first refused type -/

/-- The cause why a type is not mapped, if it is not. -/
def refusal? (typeName : String) : Option UnsupportedType :=
  match innermost? typeName with
  | none => some ⟨(Java.TypeName.ofString typeName).element⟩
  | some _ => none

/-- The cause why the first of the types that are not mapped is not. -/
def firstRefusal? (typeNames : List String) : Option UnsupportedType :=
  typeNames.findSome? refusal?

section Refusals

variable {self typeName : String} {typeNames typeNames' : List String} {e : UnsupportedType}

/-- Whether a type is mapped does not depend on where it stands. -/
lemma failsFor_mapType (self typeName : String) (position : Position) (allowNull : Bool) :
    FailsFor (mapType self typeName position allowNull) (refusal? typeName) := by
  rw [mapType_eq, refusal?]
  cases innermost? typeName with
  | none => rfl
  | some inner => exact ⟨_, rfl⟩

lemma isAccepted_iff : IsAccepted self typeName ↔ refusal? typeName = none := by
  constructor
  · intro h
    exact (failsFor_mapType self typeName .value true).exists_ok_iff.1 (h .value true)
  · intro h position allowNull
    exact (failsFor_mapType self typeName position allowNull).exists_ok_iff.2 h

lemma isRefused_iff : IsRefused self typeName e ↔ refusal? typeName = some e := by
  constructor
  · intro h
    exact (failsFor_mapType self typeName .value true).error_iff.1 (h .value true)
  · intro h position allowNull
    exact (failsFor_mapType self typeName position allowNull).error_iff.2 h

lemma firstRefusal?_eq_none_iff : firstRefusal? typeNames = none ↔ ∀ t ∈ typeNames, IsAccepted self t := by
  simp only [firstRefusal?, List.findSome?_eq_none_iff, isAccepted_iff]

lemma firstRefusal?_eq_some_iff : firstRefusal? typeNames = some e ↔ ∃ before t after,
    typeNames = before ++ t :: after ∧ (∀ u ∈ before, IsAccepted self u) ∧ IsRefused self t e := by
  simp only [firstRefusal?, List.findSome?_eq_some_iff, isAccepted_iff, isRefused_iff]
  constructor
  · rintro ⟨before, t, after, rfl, ht, hbefore⟩
    exact ⟨before, t, after, rfl, hbefore, ht⟩
  · rintro ⟨before, t, after, rfl, hbefore, ht⟩
    exact ⟨before, t, after, rfl, ht, hbefore⟩

lemma firstRefusal?_cons :
    firstRefusal? (typeName :: typeNames) = (refusal? typeName).or (firstRefusal? typeNames) := by
  rw [firstRefusal?, List.findSome?_cons]
  cases refusal? typeName <;> rfl

lemma firstRefusal?_append :
    firstRefusal? (typeNames ++ typeNames') = (firstRefusal? typeNames).or (firstRefusal? typeNames') :=
  List.findSome?_append

/-- Types that come again make no difference. -/
lemma firstRefusal?_append_of_subset (h : typeNames' ⊆ typeNames) :
    firstRefusal? (typeNames ++ typeNames') = firstRefusal? typeNames := by
  rw [firstRefusal?_append]
  cases hfirst : firstRefusal? typeNames with
  | some e => rfl
  | none =>
    have hrest : firstRefusal? typeNames' = none := by
      rw [firstRefusal?, List.findSome?_eq_none_iff] at hfirst ⊢
      exact fun t ht => hfirst t (h ht)
    rw [hrest]
    rfl

lemma firstRefusal?_flatMap_congr {α : Type} {as : List α} {f g : α → List String}
    (h : ∀ a ∈ as, firstRefusal? (f a) = firstRefusal? (g a)) :
    firstRefusal? (as.flatMap f) = firstRefusal? (as.flatMap g) := by
  induction as with
  | nil => rfl
  | cons a as ih =>
    obtain ⟨ha, has⟩ := List.forall_mem_cons.1 h
    rw [List.flatMap_cons, List.flatMap_cons, firstRefusal?_append, firstRefusal?_append, ha, ih has]

lemma failsFor_mapM (self : String) (uses : List TypeUse) :
    FailsFor (uses.mapM (TypeUse.mapped self)) (firstRefusal? (uses.map (·.typeName))) := by
  induction uses with
  | nil => exact ⟨[], rfl⟩
  | cons u uses ih =>
    have hfirst : FailsFor (TypeUse.mapped self u) _ := failsFor_mapType self u.typeName u.position u.allowNull
    rw [List.map_cons, firstRefusal?_cons]
    exact hfirst.mapM_cons ih

end Refusals

/-! ## The types of members -/

lemma uniqueFields_eq (fields : List Java.Field) :
    uniqueFields fields = fields.eraseDupsBy fun f g => f.name == g.name := by
  have hgo : ∀ seen : List String, uniqueFields.go seen fields =
      (fields.filter (·.name ∉ seen)).eraseDupsBy fun f g => f.name == g.name := by
    induction fields with
    | nil => exact fun _ => rfl
    | cons f fields ih =>
      intro seen
      rw [Java.eraseDupsBy_unseen_cons Java.Field.name, uniqueFields.go, ← ih, ← ih]
  rw [uniqueFields, hgo []]
  simp

lemma typeNames_parameterUses (parameters : List String) :
    (parameterUses parameters).map (·.typeName) = parameters := by
  simp [parameterUses, Function.comp_def]

lemma firstRefusal?_overloadUses (name : String) (ms : List Java.Method) :
    firstRefusal? ((overloadUses name (ms.map .ofMethod)).map (·.typeName)) =
      firstRefusal? (ms.flatMap fun m => m.returnType :: m.parameters) := by
  rw [overloadUses, List.flatMap_map, List.map_flatMap]
  refine firstRefusal?_flatMap_congr fun m _ => ?_
  -- the types of an overload are mapped twice
  rw [List.map_append, firstRefusal?_append_of_subset (List.Subset.refl _), Overload.uses, List.map_cons,
    typeNames_parameterUses]
  rfl

/-- Constructors need the types of the factories once more, except their class. -/
lemma firstRefusal?_constructors (own : String) (signatures : List (List String)) :
    firstRefusal? ((factoryUses own signatures ++ signatures.flatMap parameterUses).map (·.typeName)) =
      firstRefusal? (signatures.flatMap fun parameters => own :: parameters) := by
  have hfactories : (factoryUses own signatures).map (·.typeName) =
      signatures.flatMap fun parameters => own :: parameters := by
    simp [factoryUses, Overload.uses, List.map_flatMap, typeNames_parameterUses]
  have hdeclared : (signatures.flatMap parameterUses).map (·.typeName) = signatures.flatten := by
    rw [List.map_flatMap, List.flatMap_congr fun parameters _ => typeNames_parameterUses parameters, List.flatMap_id']
  rw [List.map_append, hfactories, hdeclared]
  refine firstRefusal?_append_of_subset fun t ht => ?_
  obtain ⟨parameters, hin, ht⟩ := List.mem_flatten.1 ht
  exact List.mem_flatMap.2 ⟨parameters, hin, List.mem_cons_of_mem _ ht⟩

lemma firstRefusal?_methods (methods : List Java.Method) :
    firstRefusal? (((groupMethods methods).flatMap fun g => overloadUses g.1 g.2).map (·.typeName)) =
      firstRefusal? ((methodsByName methods).flatMap fun m => m.1.returnType :: m.1.parameters) := by
  have hpositions : ∀ ms : List Java.Method, (ms.zipIdx.flatMap fun m => m.1.returnType :: m.1.parameters) =
      ms.flatMap fun m => m.returnType :: m.parameters := by
    intro ms
    conv_rhs => rw [← List.zipIdx_map_fst 0 ms, List.flatMap_map]
  rw [groupMethods_eq, List.flatMap_map, List.map_flatMap, methodsByName, List.flatMap_assoc]
  refine firstRefusal?_flatMap_congr fun name _ => ?_
  rw [hpositions]
  exact firstRefusal?_overloadUses name _

lemma firstRefusal?_memberUses (info : Java.ClassInfo) :
    firstRefusal? ((memberUses info.name info).map (·.typeName)) = firstRefusal? (neededTypes info) := by
  have hconstructors : firstRefusal? ((if info.isAbstract then [] else
      factoryUses info.name (publicSignatures info.constructors) ++
        (publicSignatures info.constructors).flatMap parameterUses).map (·.typeName)) =
      firstRefusal? (if info.isAbstract then [] else
        (info.constructors.filter (·.modifiers.isPublic)).flatMap fun c => info.name :: c.parameters) := by
    split
    · rfl
    · rw [firstRefusal?_constructors, publicSignatures, List.flatMap_map]
  rw [memberUses, neededTypes, List.map_append, List.map_append, List.map_map, uniqueFields_eq, firstRefusal?_append,
    firstRefusal?_append, firstRefusal?_append, firstRefusal?_append, hconstructors, ← firstRefusal?_methods]
  rfl

/-! ## The conversion of a class -/

/-- The first refused type is the cause of the failure. -/
lemma failsFor_convertClass (info : Java.ClassInfo) (resolved : List String) :
    FailsFor (convertClass info resolved) (firstRefusal? (neededTypes info)) := by
  have hmapped := failsFor_mapM info.name (memberUses info.name info)
  have hconverts := converts_convertMembers info.name info
  rw [firstRefusal?_memberUses] at hmapped
  unfold Converts at hconverts
  unfold convertClass
  -- the members are converted exactly if their types are mapped, whatever is noted on the way
  cases hrefusal : firstRefusal? (neededTypes info) with
  | none =>
    obtain ⟨mapped, hmapped⟩ := hmapped.exists_ok_iff.2 hrefusal
    simp only [hmapped] at hconverts
    obtain ⟨members, -, hrun⟩ := hconverts
    exact ⟨_, by rw [hrun]⟩
  | some e =>
    simp only [hmapped.error_iff.2 hrefusal] at hconverts
    obtain ⟨mapped, hrun⟩ := hconverts
    change _ = Except.error e
    rw [hrun]

/-- A class is converted exactly if all types that it needs are accepted, and otherwise fails at the first refused one. Of
two classes that need the same types one fails as the other does, whatever their other members are. -/
theorem convertClass_error_iff_refused (info : Java.ClassInfo) (resolved : List String) :
    ((∃ c, convertClass info resolved = .ok c) ↔ ∀ t ∈ neededTypes info, IsAccepted info.name t) ∧
      (∀ e, convertClass info resolved = .error e ↔ ∃ before t after,
        neededTypes info = before ++ t :: after ∧ (∀ u ∈ before, IsAccepted info.name u) ∧ IsRefused info.name t e) ∧
      ∀ info' resolved', neededTypes info' = neededTypes info →
        ∀ e, convertClass info' resolved' = .error e ↔ convertClass info resolved = .error e := by
  have hfails := failsFor_convertClass info resolved
  refine ⟨hfails.exists_ok_iff.trans firstRefusal?_eq_none_iff, fun e => ?first, fun info' resolved' hsame e => ?same⟩
  case first => exact hfails.error_iff.trans firstRefusal?_eq_some_iff
  case same => rw [hfails.error_iff, (failsFor_convertClass info' resolved').error_iff, hsame]

/-- A class whose second `get` has an array of something that is no class, behind a `put` with a parameter of the same kind.
Its public field is hidden by one that is not public. -/
def brokenInfo : Java.ClassInfo :=
  { name := "p.Broken"
    modifiers := ⟨1⟩
    fields := [⟨"size", "1", ⟨2⟩⟩, ⟨"size", "2", ⟨1⟩⟩]
    methods := [⟨"get", ["p.Item"], "int", ⟨1⟩⟩, ⟨"put", ["4"], "void", ⟨1⟩⟩, ⟨"get", ["3[]"], "p.Item", ⟨1⟩⟩]
    constructors := [⟨["5"], ⟨1⟩⟩] }

theorem convertClass_error_iff_refused_broken :
    neededTypes brokenInfo = ["int", "p.Item", "p.Item", "3[]", "void", "4", "p.Broken", "5"] ∧
      convertClass brokenInfo ["p.Item"] = .error ⟨"3"⟩ ∧
      ∀ e, convertClass { brokenInfo with fields := [] } [] = .error e ↔ convertClass brokenInfo ["p.Item"] = .error e := by
  have hneeded : neededTypes brokenInfo = ["int", "p.Item", "p.Item"] ++ "3[]" :: ["void", "4", "p.Broken", "5"] := by
    decide +kernel
  have haccepted : ∀ u ∈ ["int", "p.Item", "p.Item"], refusal? u = none := by decide +kernel
  have hrefused : refusal? "3[]" = some ⟨"3"⟩ := by decide +kernel
  obtain ⟨-, hfails, hsame⟩ := convertClass_error_iff_refused brokenInfo ["p.Item"]
  refine ⟨hneeded, (hfails ⟨"3"⟩).2 ?_, hsame _ _ (by decide +kernel)⟩
  exact ⟨_, "3[]", _, hneeded, fun u hu => isAccepted_iff.2 (haccepted u hu), isRefused_iff.2 hrefused⟩

end Typings.Conversion
