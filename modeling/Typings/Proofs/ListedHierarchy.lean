import Typings.Javap.Client
import Typings.Proofs.KeptClasses
import Typings.Proofs.TextParts

/-!
# The hierarchy of listed classes

What a run of the tool tells of a class does not depend on what was loaded before. It tells of no class without a recorded
outcome, so the recorded outcomes bound the hierarchy. A load goes one of six ways, which is the principle that its
properties are proved by.
-/

namespace Typings

/-- The class that a tool was run for. -/
def Event.listedClass? : Event → Option String
  | .ran command => command.getLast?
  | _ => none

/-- The classes that the tool was run for, in their order. -/
def Session.listed {σ : Type} (s : Session σ) : List String :=
  s.journal.toList.filterMap Event.listedClass?

namespace Javap

variable {σ : Type} {settings : Settings} {host : Host} {c : String} {l : Listing} {e : LoadError}

/-- What the tool tells of a class. -/
def declared (settings : Settings) (host : Host) (className : String) : Except LoadError Listing :=
  Action.valueOf (describe (σ := Unit) settings host className ⟨(), #[]⟩)

/-- The classes as listed. -/
def hierarchy (settings : Settings) (host : Host) : Hierarchy := fun className =>
  (declared settings host className).map fun l => ⟨l.supertypes className, l.withInherited className⟩

/-! ## Runs of the tool -/

lemma describe_eq (settings : Settings) (host : Host) (c : String) (s : Session σ) :
    describe settings host c s =
      match toolPath? settings host with
      | none => .error (.unresolved c "javap not found on PATH, ensure a JDK is installed") s
      | some tool =>
        let journal := s.journal.push (.ran (command tool settings.classpath c))
        match (host.outcome c).listing c with
        | .error e => .error e ⟨s.state, journal⟩
        | .ok l =>
          .ok l ⟨s.state, journal.push (.listed c l.fields.length l.methods.length l.constructors.length)⟩ := by
  unfold describe
  cases toolPath? settings host with
  | none => rfl
  | some tool =>
    dsimp only [bind, EStateM.bind]
    cases (host.outcome c).listing c <;> rfl

lemma listedClass?_ran (tool : String) (classpath : List String) (c : String) :
    (Event.ran (command tool classpath c)).listedClass? = some c := by
  simp only [Event.listedClass?, command, List.getLast?_concat]

lemma describe_ok {s s' : Session σ} (hrun : describe settings host c s = .ok l s') :
    declared settings host c = .ok l ∧ s'.state = s.state ∧ s'.listed = s.listed ++ [c] := by
  rw [describe_eq] at hrun
  rw [declared, describe_eq]
  cases htool : toolPath? settings host with
  | none => simp [htool] at hrun
  | some tool =>
    cases hout : (host.outcome c).listing c with
    | error e => simp [htool, hout] at hrun
    | ok l' =>
      simp only [htool, hout] at hrun
      cases hrun
      refine ⟨rfl, rfl, ?_⟩
      have hnone : (Event.listed c l.fields.length l.methods.length l.constructors.length).listedClass? = none := rfl
      simp [Session.listed, listedClass?_ran, hnone]

lemma describe_error {s s' : Session σ} (hrun : describe settings host c s = .error e s') :
    declared settings host c = .error e ∧ s'.state = s.state ∧ (s'.listed = s.listed ∨ s'.listed = s.listed ++ [c]) := by
  rw [describe_eq] at hrun
  rw [declared, describe_eq]
  cases htool : toolPath? settings host with
  | none =>
    simp only [htool] at hrun
    cases hrun
    exact ⟨rfl, rfl, .inl rfl⟩
  | some tool =>
    cases hout : (host.outcome c).listing c with
    | ok l' => simp [htool, hout] at hrun
    | error e' =>
      simp only [htool, hout] at hrun
      cases hrun
      refine ⟨rfl, rfl, .inr ?_⟩
      simp [Session.listed, listedClass?_ran]

lemma hierarchy_of_ok (hc : declared settings host c = .ok l) :
    hierarchy settings host c = .ok ⟨l.supertypes c, l.withInherited c⟩ := by
  rw [hierarchy, hc]
  rfl

lemma hierarchy_of_error (hc : declared settings host c = .error e) : hierarchy settings host c = .error e := by
  rw [hierarchy, hc]
  rfl

lemma extends_iff {d : String} :
    (hierarchy settings host).Extends c d ↔ ∃ l, declared settings host c = .ok l ∧ d ∈ l.supertypes c := by
  constructor
  · rintro ⟨o, ho, hd⟩
    cases hc : declared settings host c with
    | error e => simp [hierarchy_of_error hc] at ho
    | ok l =>
      rw [hierarchy_of_ok hc] at ho
      cases ho
      exact ⟨l, rfl, hd⟩
  · rintro ⟨l, hc, hd⟩
    exact ⟨_, hierarchy_of_ok hc, hd⟩

/-- The supertypes of a listed class, in their order; of another class none. -/
def declaredSupertypes (settings : Settings) (host : Host) (className : String) : List String :=
  match declared settings host className with
  | .ok l => l.supertypes className
  | .error _ => []

lemma extends_iff_mem {d : String} :
    (hierarchy settings host).Extends c d ↔ d ∈ declaredSupertypes settings host c := by
  rw [extends_iff, declaredSupertypes]
  cases declared settings host c <;> simp

instance (c d : String) : Decidable ((hierarchy settings host).Extends c d) :=
  decidable_of_iff _ extends_iff_mem.symm

/-! ## Classes without a recorded outcome -/

lemma listing_of_no_outcome (c : String) :
    (Outcome.finished ("Error: class not found: " ++ c ++ "\n") "" 1).listing c = .error (.classNotFound c) := by
  have hfold : ("Error: class not found: " ++ c ++ "\n" ++ "").toList.map foldCase =
      "error: ".toList ++ "class not found".toList ++ (": " ++ c ++ "\n").toList.map foldCase := by
    simp only [String.toList_append, List.map_append, List.append_assoc]
    rfl
  have hsays : saysNotFound ("Error: class not found: " ++ c ++ "\n" ++ "").toList = true := by
    rw [saysNotFound, hfold]
    exact Text.occursIn_append _ _ _
  simp only [Outcome.listing, hsays, if_true]

lemma mem_outcomes (hc : declared settings host c = .ok l) : c ∈ host.outcomes.map (·.1) := by
  by_contra hnone
  have hlookup : host.outcomes.lookup c = none := by
    rw [List.lookup_eq_none_iff]
    intro p hp
    simp only [bne_iff_ne, ne_eq]
    rintro rfl
    exact hnone (List.mem_map_of_mem hp)
  have hlisting : ∃ e, (host.outcome c).listing c = .error e := by
    cases hobstacle : host.obstacle? with
    | some reason => exact ⟨_, by rw [Host.outcome, hobstacle, Outcome.listing]⟩
    | none => exact ⟨_, by rw [Host.outcome, hobstacle, hlookup, listing_of_no_outcome]⟩
  obtain ⟨e, he⟩ := hlisting
  rw [declared, describe_eq] at hc
  cases htool : toolPath? settings host with
  | none => simp [htool, Action.valueOf] at hc
  | some tool => simp [htool, he, Action.valueOf] at hc

/-- The recorded outcomes bound the hierarchy. -/
lemma hierarchy_coveredBy (settings : Settings) (host : Host) :
    (hierarchy settings host).CoveredBy (host.outcomes.map (·.1)) := by
  intro c o ho _
  cases hc : declared settings host c with
  | error e => simp [hierarchy_of_error hc] at ho
  | ok l => exact mem_outcomes hc

lemma room_start (settings : Settings) (host : Host) (c : String) :
    (hierarchy settings host).Room (host.outcomes.map (·.1)) [] (host.outcomes.length + 1) c :=
  .start (by simp)

/-! ## The ways a load goes -/

lemma load_succ (settings : Settings) (host : Host) (depth : Nat) (c : String) (s : Session Cache) :
    load settings host (depth + 1) c s =
      match s.state.lookup c with
      | some info => .ok info s
      | none => match describe settings host c s with
        | .error e s => .error e s
        | .ok l s => match (l.supertypes c).mapM (load settings host depth) s with
          | .error e s => .error e s
          | .ok infos s => .ok (l.withInherited c infos) ⟨(c, l.withInherited c infos) :: s.state, s.journal⟩ := by
  rw [load, bind_of_ok (Action.state_eq s)]
  cases s.state.lookup c with
  | some info => rfl
  | none =>
    dsimp only
    cases hlist : describe settings host c s with
    | error e s' => rw [bind_of_error hlist]
    | ok l s' =>
      rw [bind_of_ok hlist]
      dsimp only
      cases hmap : (l.supertypes c).mapM (load settings host depth) s' with
      | error e s'' => rw [bind_of_error hmap]
      | ok infos s'' =>
        rw [bind_of_ok hmap]
        rfl

/-- What holds of a load holds of all, when it holds of a load that is cut off, of one that finds the class, and of one
that lists the class and loads its supertypes before it; the latter may fail at each of its steps. -/
theorem load_induct (one : Nat → String → Session Cache → EStateM.Result LoadError (Session Cache) Java.ClassInfo → Prop)
    (all : Nat → List String → Session Cache → EStateM.Result LoadError (Session Cache) (List Java.ClassInfo) → Prop)
    (exhausted : ∀ c s, one 0 c s (.error .cyclicInheritance s))
    (kept : ∀ depth c s info, s.state.lookup c = some info → one (depth + 1) c s (.ok info s))
    (unlisted : ∀ depth c s e s', s.state.lookup c = none → describe settings host c s = .error e s' →
      one (depth + 1) c s (.error e s'))
    (stopped : ∀ depth c s l s' e s'', s.state.lookup c = none → describe settings host c s = .ok l s' →
      all depth (l.supertypes c) s' (.error e s'') → one (depth + 1) c s (.error e s''))
    (loaded : ∀ depth c s l s' infos s'', s.state.lookup c = none → describe settings host c s = .ok l s' →
      all depth (l.supertypes c) s' (.ok infos s'') →
      one (depth + 1) c s (.ok (l.withInherited c infos) ⟨(c, l.withInherited c infos) :: s''.state, s''.journal⟩))
    (nil : ∀ depth s, all depth [] s (.ok [] s))
    (first : ∀ depth c cs s e s', one depth c s (.error e s') → all depth (c :: cs) s (.error e s'))
    (later : ∀ depth c cs s info s' e s'', one depth c s (.ok info s') → all depth cs s' (.error e s'') →
      all depth (c :: cs) s (.error e s''))
    (cons : ∀ depth c cs s info s' infos s'', one depth c s (.ok info s') → all depth cs s' (.ok infos s'') →
      all depth (c :: cs) s (.ok (info :: infos) s''))
    (depth : Nat) (c : String) (s : Session Cache) : one depth c s (load settings host depth c s) := by
  induction depth generalizing c s with
  | zero => exact exhausted c s
  | succ depth ih =>
    have hall : ∀ cs s, all depth cs s (cs.mapM (load settings host depth) s) :=
      mapM_induct _ _ ih (nil depth) (first depth) (later depth) (cons depth)
    rw [load_succ]
    cases hkept : s.state.lookup c with
    | some info => exact kept depth c s info hkept
    | none =>
      dsimp only
      cases hlist : describe settings host c s with
      | error e s' => exact unlisted depth c s e s' hkept hlist
      | ok l s' =>
        have hsupers := hall (l.supertypes c) s'
        dsimp only
        cases hmap : (l.supertypes c).mapM (load settings host depth) s' with
        | error e s'' =>
          rw [hmap] at hsupers
          exact stopped depth c s l s' e s'' hkept hlist hsupers
        | ok infos s'' =>
          rw [hmap] at hsupers
          exact loaded depth c s l s' infos s'' hkept hlist hsupers

end Javap

end Typings
