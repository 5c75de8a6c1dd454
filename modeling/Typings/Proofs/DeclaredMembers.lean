import Mathlib.Data.List.Forall2
import Mathlib.Data.List.Induction
import Mathlib.Data.List.Nodup
import Typings.Conversion.Members
import Typings.Proofs.Actions

/-!
# The declarations of methods and constructors

Each public method is declared twice, next to each other, and methods of one name stand together at the place of the first
of them. Each public constructor is declared by a factory, and after all factories by a constructor. The types of the two
declarations are mapped at different moments, and agree since what a type is mapped to does not depend on the moment.
-/

namespace Typings.Conversion

open TypeScript (TypeNode Member)

/-! ## Methods of one name -/

section Groups

lemma eraseDups_concat (names : List String) (name : String) :
    (names ++ [name]).eraseDups = if name ∈ names then names.eraseDups else names.eraseDups ++ [name] := by
  rw [List.eraseDups_append, List.removeAll]
  by_cases h : name ∈ names <;> simp [h, List.eraseDups_cons]

lemma nodup_eraseDups (names : List String) : names.eraseDups.Nodup := by
  induction names using List.reverseRecOn with
  | nil => exact List.nodup_nil
  | append_singleton names name ih =>
    rw [eraseDups_concat]
    split
    · exact ih
    · next h =>
      rw [← List.concat_eq_append]
      exact ih.concat (by rwa [List.mem_eraseDups])

lemma flatMap_filter_perm {α : Type} (key : α → String) {keys : List String} {items : List α} (hnodup : keys.Nodup)
    (hkeys : ∀ a ∈ items, key a ∈ keys) : (keys.flatMap fun k => items.filter (key · = k)).Perm items := by
  induction keys generalizing items with
  | nil =>
    cases items with
    | nil => exact .nil
    | cons a items => exact absurd (hkeys a List.mem_cons_self) List.not_mem_nil
  | cons k keys ih =>
    obtain ⟨hk, hnodup⟩ := List.nodup_cons.1 hnodup
    -- the items of the other keys are found among the items without this key
    have hothers : (keys.flatMap fun l => items.filter (key · = l)) =
        keys.flatMap fun l => (items.filter fun a => !decide (key a = k)).filter (key · = l) := by
      refine List.flatMap_congr fun l hl => ?_
      rw [List.filter_filter]
      refine List.filter_congr fun a _ => ?_
      by_cases ha : key a = l
      · have hne : l ≠ k := fun heq => hk (heq ▸ hl)
        simp [ha, hne]
      · simp [ha]
    have hrest : ∀ a ∈ items.filter fun a => !decide (key a = k), key a ∈ keys := by
      intro a ha
      obtain ⟨hin, hne⟩ := List.mem_filter.1 ha
      exact (List.mem_cons.1 (hkeys a hin)).resolve_left (by simpa using hne)
    rw [List.flatMap_cons, hothers]
    exact ((ih hnodup hrest).append_left _).trans (List.filter_append_perm _ items)

variable (methods : List Java.Method)

/-- The names of the public methods, in the order in which they first appear. -/
def publicNames : List String :=
  ((methods.filter (·.modifiers.isPublic)).map (·.name)).eraseDups

/-- The public methods of a name. -/
def publicOverloads (name : String) : List Java.Method :=
  (methods.filter (·.modifiers.isPublic)).filter (·.name = name)

/-- The public methods name by name, with their positions among those of their name. -/
def methodsByName : List (Java.Method × Nat) :=
  (publicNames methods).flatMap fun name => (publicOverloads methods name).zipIdx

theorem methodsByName_perm : ((methodsByName methods).map Prod.fst).Perm (methods.filter (·.modifiers.isPublic)) := by
  simp only [methodsByName, List.map_flatMap, List.zipIdx_map_fst]
  refine flatMap_filter_perm (fun m : Java.Method => m.name) (nodup_eraseDups _) fun m hm => ?_
  exact List.mem_eraseDups.2 (List.mem_map_of_mem hm)

variable {names : List String} {name : String} (o : Overload) (overloads : String → List Overload)

lemma addToGroup_of_notMem (h : name ∉ names) :
    addToGroup name o (names.map fun n => (n, overloads n)) =
      (names.map fun n => (n, overloads n)) ++ [(name, [o])] := by
  induction names with
  | nil => rfl
  | cons n names ih =>
    obtain ⟨hne, hrest⟩ := not_or.1 (mt List.mem_cons.2 h)
    rw [List.map_cons, addToGroup, if_neg (Ne.symm hne), ih hrest, List.cons_append]

lemma addToGroup_of_mem (hnodup : names.Nodup) (h : name ∈ names) :
    addToGroup name o (names.map fun n => (n, overloads n)) =
      names.map fun n => (n, if n = name then overloads n ++ [o] else overloads n) := by
  induction names with
  | nil => cases h
  | cons n names ih =>
    obtain ⟨hn, hnodup⟩ := List.nodup_cons.1 hnodup
    rw [List.map_cons, List.map_cons, addToGroup]
    by_cases heq : n = name
    · -- the other groups are those of other names
      have hothers : ∀ l ∈ names, (l, overloads l) = (l, if l = name then overloads l ++ [o] else overloads l) := by
        intro l hl
        rw [if_neg]
        rintro rfl
        exact hn (heq ▸ hl)
      rw [if_pos heq, if_pos heq, List.map_congr_left hothers]
    · rw [if_neg heq, if_neg heq, ih hnodup ((List.mem_cons.1 h).resolve_left (Ne.symm heq))]

/-- The groups are those of the names in the order in which they first appear. -/
theorem groupMethods_eq :
    groupMethods methods =
      (publicNames methods).map fun name => (name, (publicOverloads methods name).map .ofMethod) := by
  unfold groupMethods publicNames publicOverloads
  generalize methods.filter (·.modifiers.isPublic) = ms
  -- the fold puts one method after the other into the groups, so the induction goes by the last one
  induction ms using List.reverseRecOn with
  | nil => rfl
  | append_singleton ms m ih =>
    have hfilter : ∀ name, ((ms ++ [m]).filter (·.name = name)).map Overload.ofMethod =
        if name = m.name then (ms.filter (·.name = name)).map Overload.ofMethod ++ [.ofMethod m]
        else (ms.filter (·.name = name)).map Overload.ofMethod := by
      intro name
      by_cases heq : name = m.name
      · simp [heq]
      · simp [heq, Ne.symm heq]
    rw [List.foldl_append, ih, List.foldl_cons, List.foldl_nil, List.map_append, List.map_singleton, eraseDups_concat]
    simp only [hfilter]
    -- the last method joins the group of its name or starts a new one
    split
    · next hmem => exact addToGroup_of_mem _ _ (nodup_eraseDups _) (List.mem_eraseDups.2 hmem)
    · next hmem =>
      have hnew : m.name ∉ (ms.map (·.name)).eraseDups := by rwa [List.mem_eraseDups]
      have hnone : ms.filter (·.name = m.name) = [] := by
        refine List.filter_eq_nil_iff.2 fun n hn heq => hmem ?_
        exact List.mem_map.2 ⟨n, hn, by simpa using heq⟩
      rw [addToGroup_of_notMem _ _ hnew, List.map_append, List.map_singleton, if_pos rfl, hnone]
      refine congrArg (· ++ _) (List.map_congr_left fun n hn => ?_)
      rw [if_neg]
      rintro rfl
      exact hnew hn

end Groups

/-! ## What is declared -/

/-- The type is what a Java type is mapped to in the module of the class `self`. -/
def MapsTo (self typeName : String) (position : Position) (allowNull : Bool) (t : TypeNode) : Prop :=
  ∃ m, mapType self typeName position allowNull = .ok m ∧ m.node = t

/-- The parameters of the given types, numbered from `index`. -/
def AreParameters (self : String) (index : Nat) (typeNames : List String) (ps : List TypeScript.Parameter) : Prop :=
  List.Forall₂ (fun t p => p.name = "var" ++ toString t.2 ∧ MapsTo self t.1 .parameter true p.type)
    (typeNames.zipIdx index) ps

/-- The method declares the overload that has the position `index` among those of its name, apart from its own name and
its return type. The first one stands below the section comment. -/
structure Declares (own name : String) (index : Nat) (o : Overload) (method : TypeScript.Method) : Prop where
  modifiers : method.modifiers = if o.isStatic then ["public", "static"] else ["public"]
  parameters : AreParameters own 0 o.parameters method.parameters
  comments : method.comments = (if index = 0 then [sectionComment ("Method " ++ name)] else []) ++
    [.doc (parameterLines 0 o.parameters ++ ["@return original return type: '" ++ o.returnType ++ "'"])]

/-- The two declarations of a method. -/
structure DeclaredTwice (own : String) (m : Java.Method) (index : Nat) (async sync : TypeScript.Method) : Prop where
  declared : Declares own m.name index (.ofMethod m) async
  sameModifiers : sync.modifiers = async.modifiers
  sameParameters : sync.parameters = async.parameters
  sameComments : sync.comments = async.comments
  asyncName : async.name = m.name
  syncName : sync.name = async.name ++ "Sync"
  result : MapsTo own m.returnType .value (m.name ∉ neverNull) sync.returnType
  promised : async.returnType = .promise sync.returnType

/-- The public constructors with their positions. -/
def publicConstructors (constructors : List Java.Constructor) : List (Java.Constructor × Nat) :=
  (constructors.filter (·.modifiers.isPublic)).zipIdx

/-- The factory for a constructor. -/
structure IsFactory (own : String) (c : Java.Constructor) (index : Nat) (factory : TypeScript.Method) : Prop where
  declared : Declares own "newInstance" index ⟨c.parameters, own, true⟩ factory
  name : factory.name = "newInstance"
  result : ∃ t, MapsTo own own .value false t ∧ factory.returnType = .promise t

/-- The constructor for a constructor. -/
structure IsConstructor (own : String) (c : Java.Constructor) (index : Nat) (declared : TypeScript.Constructor) :
    Prop where
  modifiers : declared.modifiers = ["public"]
  parameters : AreParameters own 0 c.parameters declared.parameters
  body : declared.superCalls = none
  comments : declared.comments = (if index = 0 then [sectionComment "Constructors"] else []) ++
    if c.parameters = [] then [] else [.doc (parameterLines 0 c.parameters)]

lemma MapsTo.unique {self typeName : String} {position : Position} {allowNull : Bool} {t t' : TypeNode}
    (h : MapsTo self typeName position allowNull t) (h' : MapsTo self typeName position allowNull t') : t = t' := by
  obtain ⟨m, hm, rfl⟩ := h
  obtain ⟨m', hm', rfl⟩ := h'
  rw [hm] at hm'
  cases hm'
  rfl

lemma AreParameters.unique {self : String} {index : Nat} {typeNames : List String} {ps ps' : List TypeScript.Parameter}
    (h : AreParameters self index typeNames ps) (h' : AreParameters self index typeNames ps') : ps = ps' := by
  refine Relator.RightUnique.forall₂ (fun t p p' hp hp' => ?_) h h'
  cases p
  cases p'
  cases hp.2.unique hp'.2
  cases hp.1.trans hp'.1.symm
  rfl

/-- The name that a declaration has. -/
def Delivery.nameOf (name : String) : Delivery → String
  | async => name
  | sync => name ++ "Sync"

/-- The type of what a declaration hands out. -/
def Delivery.typeOf (t : TypeNode) : Delivery → TypeNode
  | async => .promise t
  | sync => t

/-! ## Conversions that succeed -/

section Converted

variable {scope : Scope} {r r' : References} {index : Nat}

lemma mapsTo_of_convertType {typeName : String} {position : Position} {allowNull : Bool} {t : TypeNode}
    (h : convertType scope typeName position allowNull r = .ok t r') :
    MapsTo scope.className typeName position allowNull t := by
  unfold convertType at h
  cases hm : mapType scope.className typeName position allowNull with
  | error e =>
    rw [hm] at h
    cases h
  | ok m =>
    rw [hm] at h
    cases h
    exact ⟨m, hm, rfl⟩

lemma areParameters_of_convertParameters {typeNames : List String} {ps : List TypeScript.Parameter}
    (h : convertParameters scope index typeNames r = .ok ps r') : AreParameters scope.className index typeNames ps := by
  induction typeNames generalizing index ps r with
  | nil =>
    cases h
    exact .nil
  | cons typeName typeNames ih =>
    obtain ⟨t, _, ht, h⟩ := exists_of_bind_ok h
    obtain ⟨more, _, hmore, h⟩ := exists_of_bind_ok h
    cases h
    exact .cons ⟨rfl, mapsTo_of_convertType ht⟩ (ih hmore)

lemma declares_of_convertOverload {name : String} {allowNull : Bool} {delivery : Delivery} {o : Overload}
    {method : TypeScript.Method}
    (h : convertOverload scope name allowNull (index = 0) delivery o r = .ok method r') :
    Declares scope.className name index o method ∧ method.name = delivery.nameOf name ∧
      ∃ t, MapsTo scope.className o.returnType .value allowNull t ∧ method.returnType = delivery.typeOf t := by
  obtain ⟨t, _, ht, h⟩ := exists_of_bind_ok h
  obtain ⟨ps, _, hps, h⟩ := exists_of_bind_ok h
  cases h
  refine ⟨⟨?_, areParameters_of_convertParameters hps, by simp⟩, ?_, t, mapsTo_of_convertType ht, ?_⟩
  · cases o.isStatic <;> rfl
  · cases delivery <;> rfl
  · cases delivery <;> rfl

/-- Both declarations of an overload are made from the same types. -/
lemma declaredTwice_of_convertOverload {m : Java.Method} {r₁ r₂ r₃ : References} {async sync : TypeScript.Method}
    (hasync : convertOverload scope m.name (m.name ∉ neverNull) (index = 0) .async (.ofMethod m) r = .ok async r₁)
    (hsync : convertOverload scope m.name (m.name ∉ neverNull) (index = 0) .sync (.ofMethod m) r₂ = .ok sync r₃) :
    DeclaredTwice scope.className m index async sync := by
  obtain ⟨hdeclared, hname, t, ht, htype⟩ := declares_of_convertOverload hasync
  obtain ⟨hdeclared', hname', t', ht', htype'⟩ := declares_of_convertOverload hsync
  obtain rfl := ht.unique ht'
  exact
    { declared := hdeclared
      sameModifiers := hdeclared'.modifiers.trans hdeclared.modifiers.symm
      sameParameters := hdeclared'.parameters.unique hdeclared.parameters
      sameComments := hdeclared'.comments.trans hdeclared.comments.symm
      asyncName := hname
      syncName := hname'.trans (congrArg (· ++ "Sync") hname.symm)
      result := htype' ▸ ht
      promised := htype.trans (congrArg TypeNode.promise htype'.symm) }

/-- The pairs one after the other. -/
def inPairs (pairs : List (TypeScript.Method × TypeScript.Method)) : List TypeScript.Method :=
  pairs.flatMap fun p => [p.1, p.2]

/-- The pairs declare the methods, each of which has a position among those of its name. -/
def DeclarePairwise (own : String) (ms : List (Java.Method × Nat))
    (pairs : List (TypeScript.Method × TypeScript.Method)) : Prop :=
  List.Forall₂ (fun m p => DeclaredTwice own m.1 m.2 p.1 p.2) ms pairs

lemma of_convertOverloads (index : Nat) {name : String} {ms : List Java.Method} {converted : List TypeScript.Method}
    (hname : ∀ m ∈ ms, m.name = name)
    (h : convertOverloads scope name (index = 0) (ms.map .ofMethod) r = .ok converted r') :
    ∃ pairs, converted = inPairs pairs ∧ DeclarePairwise scope.className (ms.zipIdx index) pairs := by
  induction ms generalizing index converted r with
  | nil =>
    cases h
    exact ⟨[], rfl, .nil⟩
  | cons m ms ih =>
    obtain ⟨rfl, hname⟩ := List.forall_mem_cons.1 hname
    obtain ⟨async, _, hasync, h⟩ := exists_of_bind_ok h
    obtain ⟨sync, _, hsync, h⟩ := exists_of_bind_ok h
    obtain ⟨more, _, hmore, h⟩ := exists_of_bind_ok h
    cases h
    rw [← decide_eq_false (Nat.succ_ne_zero index)] at hmore
    obtain ⟨pairs, rfl, hpairs⟩ := ih (index + 1) hname hmore
    exact ⟨(async, sync) :: pairs, rfl, .cons (declaredTwice_of_convertOverload hasync hsync) hpairs⟩

lemma of_convertGroups {names : List String} {overloads : String → List Java.Method}
    {converted : List (List TypeScript.Method)} (hname : ∀ name, ∀ m ∈ overloads name, m.name = name)
    (h : (names.map fun name => (name, (overloads name).map Overload.ofMethod)).mapM
      (fun group => convertOverloads scope group.1 true group.2) r = .ok converted r') :
    ∃ pairs, converted.flatten = inPairs pairs ∧
      DeclarePairwise scope.className (names.flatMap fun name => (overloads name).zipIdx) pairs := by
  induction names generalizing converted r with
  | nil =>
    cases h
    exact ⟨[], rfl, .nil⟩
  | cons name names ih =>
    rw [List.map_cons, List.mapM_cons] at h
    obtain ⟨first, _, hfirst, h⟩ := exists_of_bind_ok h
    obtain ⟨more, _, hmore, h⟩ := exists_of_bind_ok h
    cases h
    obtain ⟨pairs, rfl, hpairs⟩ := of_convertOverloads 0 (hname name) hfirst
    obtain ⟨pairs', hflat, hpairs'⟩ := ih hmore
    refine ⟨pairs ++ pairs', ?_, List.rel_append hpairs hpairs'⟩
    rw [List.flatten_cons, hflat, inPairs, inPairs, inPairs, List.flatMap_append]

lemma of_convertMethods {methods : List Java.Method} {converted : List TypeScript.Method}
    (h : convertMethods scope methods r = .ok converted r') :
    ∃ pairs, converted = inPairs pairs ∧ DeclarePairwise scope.className (methodsByName methods) pairs := by
  unfold convertMethods at h
  obtain ⟨groups, _, hgroups, h⟩ := exists_of_bind_ok h
  cases h
  rw [groupMethods_eq] at hgroups
  exact of_convertGroups (fun name m hm => by simpa using (List.mem_filter.1 hm).2) hgroups

lemma of_convertFactories (index : Nat) {cs : List Java.Constructor} {factories : List TypeScript.Method}
    (h : convertFactories scope (index = 0) (cs.map (·.parameters)) r = .ok factories r') :
    List.Forall₂ (fun c f => IsFactory scope.className c.1 c.2 f) (cs.zipIdx index) factories := by
  induction cs generalizing index factories r with
  | nil =>
    cases h
    exact .nil
  | cons c cs ih =>
    obtain ⟨factory, _, hfactory, h⟩ := exists_of_bind_ok h
    obtain ⟨more, _, hmore, h⟩ := exists_of_bind_ok h
    cases h
    rw [← decide_eq_false (Nat.succ_ne_zero index)] at hmore
    obtain ⟨hdeclared, hname, hresult⟩ := declares_of_convertOverload hfactory
    exact .cons ⟨hdeclared, hname, hresult⟩ (ih (index + 1) hmore)

lemma of_convertSignatures (index : Nat) {cs : List Java.Constructor} {declared : List TypeScript.Constructor}
    (h : convertSignatures scope (index = 0) (cs.map (·.parameters)) r = .ok declared r') :
    List.Forall₂ (fun c d => IsConstructor scope.className c.1 c.2 d) (cs.zipIdx index) declared := by
  induction cs generalizing index declared r with
  | nil =>
    cases h
    exact .nil
  | cons c cs ih =>
    obtain ⟨ps, _, hps, h⟩ := exists_of_bind_ok h
    obtain ⟨more, _, hmore, h⟩ := exists_of_bind_ok h
    cases h
    rw [← decide_eq_false (Nat.succ_ne_zero index)] at hmore
    exact .cons ⟨rfl, areParameters_of_convertParameters hps, rfl, by simp⟩ (ih (index + 1) hmore)

lemma sameParameters_of_forall₂ {own : String} {cs : List (Java.Constructor × Nat)} {factories : List TypeScript.Method}
    {declared : List TypeScript.Constructor}
    (hfactories : List.Forall₂ (fun c f => IsFactory own c.1 c.2 f) cs factories)
    (hdeclared : List.Forall₂ (fun c d => IsConstructor own c.1 c.2 d) cs declared) :
    List.Forall₂ (fun f d => f.parameters = d.parameters) factories declared := by
  induction hfactories generalizing declared with
  | nil =>
    cases hdeclared
    exact .nil
  | cons hfactory _ ih =>
    cases hdeclared with
    | cons hd hrest => exact .cons (hfactory.declared.parameters.unique hd.parameters) (ih hrest)

end Converted

/-- Methods of two names in turn, and one that is not public. -/
def interleavedMethods : List Java.Method :=
  [⟨"add", ["p.Item"], "void", ⟨1⟩⟩, ⟨"size", [], "int", ⟨1⟩⟩, ⟨"grow", ["int"], "void", ⟨2⟩⟩,
   ⟨"add", ["int", "p.Item[]"], "p.List", ⟨9⟩⟩]

/-- Two constructors around one that is not public. -/
def severalConstructors : List Java.Constructor :=
  [⟨[], ⟨1⟩⟩, ⟨["p.Node"], ⟨0⟩⟩, ⟨["p.List", "int"], ⟨1⟩⟩]

/-- Whatever was noted before, methods and constructors that are converted are declared as follows. Name by name, each
public method is declared twice in a row, so there are twice as many declarations. Of the public constructors all have
their factories before all have their constructors, and the two for one constructor have the same parameters. -/
theorem members_declared (scope : Scope) (r : References) :
    (∀ methods converted r', convertMethods scope methods r = .ok converted r' →
      ∃ pairs, converted = inPairs pairs ∧ DeclarePairwise scope.className (methodsByName methods) pairs ∧
        ((methodsByName methods).map Prod.fst).Perm (methods.filter (·.modifiers.isPublic)) ∧
        converted.length = 2 * (methods.filter (·.modifiers.isPublic)).length) ∧
      ∀ constructors members r', convertConstructors scope constructors r = .ok members r' →
        ∃ factories declared, members = factories.map Member.method ++ declared.map Member.constructor ∧
          List.Forall₂ (fun c f => IsFactory scope.className c.1 c.2 f) (publicConstructors constructors) factories ∧
          List.Forall₂ (fun c d => IsConstructor scope.className c.1 c.2 d) (publicConstructors constructors) declared ∧
          List.Forall₂ (fun f d => f.parameters = d.parameters) factories declared := by
  constructor
  · intro methods converted r' h
    obtain ⟨pairs, rfl, hpairs⟩ := of_convertMethods h
    have hperm := methodsByName_perm methods
    refine ⟨pairs, rfl, hpairs, hperm, ?_⟩
    have hlength : pairs.length = (methods.filter (·.modifiers.isPublic)).length := by
      rw [← hpairs.length_eq, ← hperm.length_eq, List.length_map]
    rw [← hlength, inPairs, List.length_flatMap]
    simp [Nat.mul_comm]
  · intro constructors members r' h
    unfold convertConstructors publicSignatures at h
    obtain ⟨factories, _, hfactories, h⟩ := exists_of_bind_ok h
    obtain ⟨declared, _, hdeclared, h⟩ := exists_of_bind_ok h
    cases h
    have hf := of_convertFactories 0 hfactories
    have hd := of_convertSignatures 0 hdeclared
    exact ⟨factories, declared, rfl, hf, hd, sameParameters_of_forall₂ hf hd⟩

theorem members_declared_interleaved :
    (∃ converted r', convertMethods ⟨"p.List", []⟩ interleavedMethods {} = .ok converted r' ∧
      (∃ pairs, converted = inPairs pairs ∧ DeclarePairwise "p.List" (methodsByName interleavedMethods) pairs) ∧
      converted.map (·.name) = ["add", "addSync", "add", "addSync", "size", "sizeSync"]) ∧
    ∃ members r', convertConstructors ⟨"p.List", []⟩ severalConstructors {} = .ok members r' ∧
      ∃ factories declared, members = factories.map Member.method ++ declared.map Member.constructor ∧
        List.Forall₂ (fun f d => f.parameters = d.parameters) factories declared ∧ members.length = 4 := by
  have hmethods : (match convertMethods ⟨"p.List", []⟩ interleavedMethods {} with
      | .ok converted _ => converted.map (·.name)
      | .error _ _ => []) = ["add", "addSync", "add", "addSync", "size", "sizeSync"] := by
    decide +kernel
  have hconstructors : (match convertConstructors ⟨"p.List", []⟩ severalConstructors {} with
      | .ok members _ => members.length
      | .error _ _ => 0) = 4 := by
    decide +kernel
  have hdeclared := members_declared ⟨"p.List", []⟩ {}
  constructor
  · cases hrun : convertMethods ⟨"p.List", []⟩ interleavedMethods {} with
    | error e r' => simp [hrun] at hmethods
    | ok converted r' =>
      obtain ⟨pairs, hpairs, hall, -⟩ := hdeclared.1 _ _ _ hrun
      rw [hrun] at hmethods
      exact ⟨converted, r', rfl, ⟨pairs, hpairs, hall⟩, hmethods⟩
  · cases hrun : convertConstructors ⟨"p.List", []⟩ severalConstructors {} with
    | error e r' => simp [hrun] at hconstructors
    | ok members r' =>
      obtain ⟨factories, declared, hmembers, -, -, hsame⟩ := hdeclared.2 _ _ _ hrun
      rw [hrun] at hconstructors
      exact ⟨members, r', rfl, factories, declared, hmembers, hsame, hconstructors⟩

end Typings.Conversion
