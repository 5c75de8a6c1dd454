import Mathlib.Data.List.Forall2
import Typings.Conversion.Module
import Typings.Proofs.Actions

/-!
# The types that a conversion maps

The members of a class use type names in an order that can be read off the class. A conversion maps them in this order and
stops at the first one without a mapping. If there is none, it emits the mapped types one by one, as they are or as the
type of a promise. None of this depends on which classes are resolved or on what was noted before.
-/

namespace Typings.TypeScript

/-- The types in the declaration of a member; that of the result comes before those of the parameters. -/
def Member.types : Member → List TypeNode
  | .property p => [p.type]
  | .method m => m.returnType :: m.parameters.map (·.type)
  | .constructor c => c.parameters.map (·.type)

end Typings.TypeScript

namespace Typings.Conversion

open TypeScript (TypeNode Member)

variable {α β : Type}

namespace References

/-- What is noted after the given types have been mapped one after the other. -/
def addAll (resolved : List String) (r : References) (mapped : List Mapped) : References :=
  mapped.foldl (fun r m => r.addMapped resolved m) r

lemma addAll_append (resolved : List String) (r : References) (as bs : List Mapped) :
    r.addAll resolved (as ++ bs) = (r.addAll resolved as).addAll resolved bs := by
  simp [addAll]

end References

/-- A mapped type is emitted as it is or as the type of a promise. -/
def Delivers (m : Mapped) (t : TypeNode) : Prop :=
  t = m.node ∨ t = .promise m.node

/-! ## Uses of type names -/

/-- A type name in the declaration of a member. -/
structure TypeUse where
  typeName : String
  position : Position
  allowNull : Bool
  deriving DecidableEq, Repr

/-- The TypeScript type for a use in the module of the class `self`. -/
def TypeUse.mapped (self : String) (u : TypeUse) : Except UnsupportedType Mapped :=
  mapType self u.typeName u.position u.allowNull

/-- The uses in a parameter list. -/
def parameterUses (parameters : List String) : List TypeUse :=
  parameters.map fun p => ⟨p, .parameter, true⟩

/-- The uses in a declaration of an overload. -/
def Overload.uses (allowNull : Bool) (o : Overload) : List TypeUse :=
  ⟨o.returnType, .value, allowNull⟩ :: parameterUses o.parameters

/-- The uses in the overloads of one name, each of which is declared twice. -/
def overloadUses (name : String) (overloads : List Overload) : List TypeUse :=
  overloads.flatMap fun o => o.uses (name ∉ neverNull) ++ o.uses (name ∉ neverNull)

/-- The uses in static factories. -/
def factoryUses (className : String) (signatures : List (List String)) : List TypeUse :=
  signatures.flatMap fun parameters => Overload.uses false ⟨parameters, className, true⟩

/-- The uses in the members of a class: in the public ones among the fields that are the first of their name, in the
public methods, and, unless the class is abstract, in the factories and then the constructors that are public. -/
def memberUses (className : String) (info : Java.ClassInfo) : List TypeUse :=
  ((uniqueFields info.fields).filter (·.modifiers.isPublic)).map (fun f => ⟨f.typeName, .value, true⟩) ++
    (groupMethods info.methods).flatMap (fun (name, overloads) => overloadUses name overloads) ++
    if info.isAbstract then []
    else factoryUses className (publicSignatures info.constructors) ++
      (publicSignatures info.constructors).flatMap parameterUses

/-! ## Conversions along uses -/

/-- The conversion maps the uses in this order. It stops at the first one without a mapping, and otherwise it comes to a
value that is related to the mapped types by `Q`. -/
def Converts (self : String) (uses : List TypeUse) (f : List String → Converter α) (Q : List Mapped → α → Prop) : Prop :=
  match uses.mapM (TypeUse.mapped self) with
  | .ok mapped => ∃ a, Q mapped a ∧ ∀ resolved r, f resolved r = .ok a (r.addAll resolved mapped)
  | .error e => ∃ mapped, ∀ resolved r, f resolved r = .error e (r.addAll resolved mapped)

lemma mapM_eq_ok {ε : Type} {f : α → Except ε β} {as : List α} {bs : List β} (h : as.mapM f = .ok bs) :
    List.Forall₂ (fun a b => f a = .ok b) as bs := by
  induction as generalizing bs with
  | nil =>
    cases h
    exact .nil
  | cons a as ih =>
    rw [List.mapM_cons] at h
    cases ha : f a with
    | error e =>
      rw [ha] at h
      cases h
    | ok b =>
      cases has : as.mapM f with
      | error e =>
        rw [ha, has] at h
        cases h
      | ok bs' =>
        rw [ha, has] at h
        cases h
        exact .cons ha (ih has)

/-- The types of the value are those that were mapped. -/
def Emitted (typesOf : α → List TypeNode) (mapped : List Mapped) (a : α) : Prop :=
  List.Forall₂ Delivers mapped (typesOf a)

namespace Converts

variable {self : String} {uses uses' : List TypeUse} {f : List String → Converter α} {g : α → List String → Converter β}
  {Q : List Mapped → α → Prop} {R : List Mapped → β → Prop}

lemma pure {a : α} (h : Q [] a) : Converts self [] (fun _ => Pure.pure a) Q :=
  ⟨a, h, fun _ _ => rfl⟩

lemma bind (hf : Converts self uses f Q)
    (hg : ∀ mapped a, Q mapped a → Converts self uses' (g a) fun mapped' b => R (mapped ++ mapped') b) :
    Converts self (uses ++ uses') (fun resolved => f resolved >>= fun a => g a resolved) R := by
  unfold Converts at hf ⊢
  rw [List.mapM_append]
  cases huses : uses.mapM (TypeUse.mapped self) with
  | error e =>
    rw [huses] at hf
    obtain ⟨mapped, hf⟩ := hf
    exact ⟨mapped, fun resolved r => bind_of_error (hf resolved r) _⟩
  | ok mapped =>
    rw [huses] at hf
    obtain ⟨a, ha, hf⟩ := hf
    have hg' := hg mapped a ha
    unfold Converts at hg'
    cases huses' : uses'.mapM (TypeUse.mapped self) with
    | error e =>
      rw [huses'] at hg'
      obtain ⟨mapped', hg'⟩ := hg'
      refine ⟨mapped ++ mapped', fun resolved r => ?_⟩
      rw [References.addAll_append, ← hg']
      exact bind_of_ok (hf resolved r) _
    | ok mapped' =>
      rw [huses'] at hg'
      obtain ⟨b, hb, hg'⟩ := hg'
      refine ⟨b, hb, fun resolved r => ?_⟩
      rw [References.addAll_append, ← hg']
      exact bind_of_ok (hf resolved r) _

/-- The last step only puts a value together. -/
lemma map {b : α → β} (hf : Converts self uses f Q) (hb : ∀ mapped a, Q mapped a → R mapped (b a)) :
    Converts self uses (fun resolved => f resolved >>= fun a => Pure.pure (b a)) R := by
  rw [← List.append_nil uses]
  exact hf.bind fun mapped a ha => .pure (by simpa using hb mapped a ha)

lemma mapM {h : α → List String → Converter β} {usesOf : α → List TypeUse} {typesOf : β → List TypeNode}
    (hh : ∀ a, Converts self (usesOf a) (h a) (Emitted typesOf)) (as : List α) :
    Converts self (as.flatMap usesOf) (fun resolved => as.mapM fun a => h a resolved)
      (Emitted fun bs => bs.flatMap typesOf) := by
  induction as with
  | nil =>
    simp only [List.mapM_nil]
    exact .pure .nil
  | cons a as ih =>
    simp only [List.mapM_cons]
    exact (hh a).bind fun mapped b hb => ih.map fun mapped' bs hbs => List.rel_append hb hbs

/-- What a conversion that succeeds has mapped and noted. -/
lemma of_ok (hf : Converts self uses f Q) {resolved : List String} {r r' : References} {a : α}
    (h : f resolved r = .ok a r') :
    ∃ mapped, List.Forall₂ (fun u m => u.mapped self = .ok m) uses mapped ∧ Q mapped a ∧ r' = r.addAll resolved mapped := by
  unfold Converts at hf
  cases huses : uses.mapM (TypeUse.mapped self) with
  | error e =>
    rw [huses] at hf
    obtain ⟨mapped, hf⟩ := hf
    rw [hf] at h
    cases h
  | ok mapped =>
    rw [huses] at hf
    obtain ⟨b, hb, hf⟩ := hf
    rw [hf] at h
    cases h
    exact ⟨mapped, mapM_eq_ok huses, hb, rfl⟩

end Converts

/-! ## The conversion of a class -/

section Members

variable (self : String)

lemma converts_convertType (u : TypeUse) :
    Converts self [u] (fun resolved => convertType ⟨self, resolved⟩ u.typeName u.position u.allowNull)
      fun mapped t => ∃ m, mapped = [m] ∧ t = m.node := by
  unfold Converts
  cases hm : mapType self u.typeName u.position u.allowNull with
  | error e =>
    simp only [List.mapM_cons, TypeUse.mapped, hm, convertType]
    exact ⟨[], fun _ _ => rfl⟩
  | ok m =>
    simp only [List.mapM_cons, List.mapM_nil, TypeUse.mapped, hm, convertType]
    exact ⟨m.node, ⟨m, rfl, rfl⟩, fun _ _ => rfl⟩

lemma converts_convertParameters (index : Nat) (parameters : List String) :
    Converts self (parameterUses parameters) (fun resolved => convertParameters ⟨self, resolved⟩ index parameters)
      (Emitted fun ps => ps.map (·.type)) := by
  induction parameters generalizing index with
  | nil => exact .pure .nil
  | cons p parameters ih =>
    refine (converts_convertType self ⟨p, .parameter, true⟩).bind fun mapped t ht => (ih _).map fun mapped' more hmore => ?_
    obtain ⟨m, rfl, rfl⟩ := ht
    exact .cons (.inl rfl) hmore

lemma converts_convertField (f : Java.Field) :
    Converts self [⟨f.typeName, .value, true⟩] (fun resolved => convertField ⟨self, resolved⟩ f)
      (Emitted fun p => [p.type]) := by
  refine (converts_convertType self ⟨f.typeName, .value, true⟩).map fun mapped t ht => ?_
  obtain ⟨m, rfl, rfl⟩ := ht
  exact .cons (.inl rfl) .nil

lemma converts_convertOverload (name : String) (allowNull isFirst : Bool) (delivery : Delivery) (o : Overload) :
    Converts self (o.uses allowNull)
      (fun resolved => convertOverload ⟨self, resolved⟩ name allowNull isFirst delivery o)
      (Emitted fun method => (Member.method method).types) := by
  refine (converts_convertType self ⟨o.returnType, .value, allowNull⟩).bind fun mapped t ht =>
    (converts_convertParameters self 0 o.parameters).map fun mapped' ps hps => ?_
  obtain ⟨m, rfl, rfl⟩ := ht
  cases delivery with
  | async => exact .cons (.inr rfl) hps
  | sync => exact .cons (.inl rfl) hps

lemma converts_convertOverloads (name : String) (isFirst : Bool) (overloads : List Overload) :
    Converts self (overloadUses name overloads)
      (fun resolved => convertOverloads ⟨self, resolved⟩ name isFirst overloads)
      (Emitted fun methods => (methods.map Member.method).flatMap Member.types) := by
  induction overloads generalizing isFirst with
  | nil => exact .pure .nil
  | cons o overloads ih =>
    simp only [overloadUses, List.flatMap_cons, List.append_assoc]
    exact (converts_convertOverload self name _ isFirst .async o).bind fun mapped async hasync =>
      (converts_convertOverload self name _ isFirst .sync o).bind fun mapped' sync hsync =>
        (ih false).map fun mapped'' more hmore => List.rel_append hasync (List.rel_append hsync hmore)

lemma converts_convertMethods (methods : List Java.Method) :
    Converts self ((groupMethods methods).flatMap fun (name, overloads) => overloadUses name overloads)
      (fun resolved => convertMethods ⟨self, resolved⟩ methods)
      (Emitted fun converted => (converted.map Member.method).flatMap Member.types) := by
  refine (Converts.mapM (fun group : String × List Overload =>
    converts_convertOverloads self group.1 true group.2) _).map fun mapped groups hgroups => ?_
  have hflat : (groups.flatten.map Member.method).flatMap Member.types =
      groups.flatMap fun methods => (methods.map Member.method).flatMap Member.types := by
    simp only [List.flatMap_def, List.map_flatten, List.flatten_flatten, List.map_map, Function.comp_def]
  rwa [Emitted, hflat]

lemma converts_convertFactories (isFirst : Bool) (signatures : List (List String)) :
    Converts self (factoryUses self signatures) (fun resolved => convertFactories ⟨self, resolved⟩ isFirst signatures)
      (Emitted fun factories => (factories.map Member.method).flatMap Member.types) := by
  induction signatures generalizing isFirst with
  | nil => exact .pure .nil
  | cons parameters signatures ih =>
    exact (converts_convertOverload self "newInstance" false isFirst .async ⟨parameters, self, true⟩).bind
      fun mapped factory hfactory => (ih false).map fun mapped' rest hrest => List.rel_append hfactory hrest

lemma converts_convertSignatures (isFirst : Bool) (signatures : List (List String)) :
    Converts self (signatures.flatMap parameterUses)
      (fun resolved => convertSignatures ⟨self, resolved⟩ isFirst signatures)
      (Emitted fun constructors => (constructors.map Member.constructor).flatMap Member.types) := by
  induction signatures generalizing isFirst with
  | nil => exact .pure .nil
  | cons parameters signatures ih =>
    exact (converts_convertParameters self 0 parameters).bind fun mapped ps hps =>
      (ih false).map fun mapped' rest hrest => List.rel_append hps hrest

lemma converts_convertConstructors (constructors : List Java.Constructor) :
    Converts self (factoryUses self (publicSignatures constructors) ++ (publicSignatures constructors).flatMap parameterUses)
      (fun resolved => convertConstructors ⟨self, resolved⟩ constructors)
      (Emitted fun members => members.flatMap Member.types) := by
  refine (converts_convertFactories self true _).bind fun mapped factories hfactories =>
    (converts_convertSignatures self true _).map fun mapped' declared hdeclared => ?_
  rw [Emitted, List.flatMap_append]
  exact List.rel_append hfactories hdeclared

/-- Fields, methods and constructors are put one after the other. -/
lemma Emitted.members {mapped mapped' mapped'' : List Mapped} {fields : List TypeScript.Property}
    {methods : List TypeScript.Method} {constructors : List Member}
    (hfields : Emitted (fun fields => fields.flatMap fun p => [p.type]) mapped fields)
    (hmethods : Emitted (fun methods => (methods.map Member.method).flatMap Member.types) mapped' methods)
    (hconstructors : Emitted (fun members => members.flatMap Member.types) mapped'' constructors) :
    Emitted (fun members => members.flatMap Member.types) (mapped ++ (mapped' ++ mapped''))
      (fields.map .property ++ methods.map .method ++ constructors) := by
  rw [Emitted, List.flatMap_append, List.flatMap_append, List.flatMap_map, List.append_assoc]
  exact List.rel_append hfields (List.rel_append hmethods hconstructors)

/-- The members of a class are converted along the uses in them. -/
theorem converts_convertMembers (info : Java.ClassInfo) :
    Converts self (memberUses self info) (fun resolved => convertMembers ⟨self, resolved⟩ info)
      (Emitted fun members => members.flatMap Member.types) := by
  have hfields := Converts.mapM (converts_convertField self) ((uniqueFields info.fields).filter (·.modifiers.isPublic))
  have hmethods := converts_convertMethods self info.methods
  rw [← List.map_eq_flatMap] at hfields
  rw [memberUses, List.append_assoc]
  cases h : info.isAbstract with
  | true =>
    -- An abstract class has neither factories nor constructors.
    simp only [convertMembers, h, if_true]
    exact hfields.bind fun _ _ hfields => hmethods.bind fun _ _ hmethods =>
      (Converts.pure .nil).map fun _ _ hconstructors => hfields.members hmethods hconstructors
  | false =>
    simp only [convertMembers, h]
    exact hfields.bind fun _ _ hfields => hmethods.bind fun _ _ hmethods =>
      (converts_convertConstructors self info.constructors).map fun _ _ hconstructors =>
        hfields.members hmethods hconstructors

end Members

end Typings.Conversion
