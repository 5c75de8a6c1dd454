import Typings.Proofs.ListedOnce
import Typings.Proofs.SharedContext
import Typings.Proofs.SourceNames

/-!
# Loads from sources

A client of Java sources keeps the classes it has loaded and asks another client for the classes that no source declares,
and for those alone. If the other client says the same of such a class whenever it is asked, so does this client of every
class.
-/

namespace Typings

open Typings.Action (Alike valueOf sessionOf)

/-- As long as its state is in `J` the client says the same of each of the classes whenever it is asked, and its state
stays in `J`. -/
structure Client.SteadyOn {σ : Type} (client : Client σ) (classes : String → Prop) (J : σ → Prop) : Prop where
  same : ∀ c s t, classes c → J s.state → J t.state → valueOf (client.load c s) = valueOf (client.load c t)
  keeps : ∀ c s, classes c → J s.state → J (sessionOf (client.load c s)).state

namespace Source

variable {σ : Type} {sources : Sources} {fallback? : Option (Client σ)} {J : σ → Prop} {index : Index} {c : String}
  {depth : Nat} {s : Session (ClientState σ)}

/-- The sources are indexed and do not declare the class. -/
def Sources.Lacks (sources : Sources) (c : String) : Prop :=
  ∃ index, sources.result = .ok index ∧ index.contains c = false

/-! ## The hierarchy of the sources -/

/-- Whether there is a client for a supertype: this one, or the other one. -/
def isAvailable (fallback? : Option (Client σ)) (index : Index) (supertype : String) : Bool :=
  fallback?.isSome || index.contains supertype

/-- What the source of a type tells of it when names are asked of the other client in its state `start`. -/
def outline (index : Index) (fallback? : Option (Client σ)) (start : σ) (t : SourceType) : Except LoadError Outline := do
  let naming := typeName index (knows fallback?) t
  let own ← valueOf (convertMembers naming t t.header.members ⟨{ fallback := start }, #[]⟩)
  let names ← valueOf (supertypeNames naming t ⟨{ fallback := start }, #[]⟩)
  return ⟨names.filter (isAvailable fallback? index), t.withInherited (t.withImplicit own)⟩

/-- The classes as the sources and the other client tell of them. -/
def hierarchy (sources : Sources) (fallback? : Option (Client σ)) (start : σ) : Hierarchy := fun c => do
  let index ← sources.result
  match index.find? c, fallback? with
  | none, none => .error (.classNotFound c)
  | none, some fallback => (valueOf (fallback.load c ⟨start, #[]⟩)).map fun info => ⟨[], fun _ => info⟩
  | some t, _ => outline index fallback? start t

section Outlines

variable {start : σ} {t : SourceType}

lemma hierarchy_of_error {e : LoadError} (h : sources.result = .error e) : hierarchy sources fallback? start c = .error e := by
  rw [hierarchy, h]
  rfl

lemma hierarchy_of_find? (h : sources.result = .ok index) (ht : index.find? c = some t) :
    hierarchy sources fallback? start c = outline index fallback? start t := by
  simp only [hierarchy, h, bind, Except.bind, ht]

lemma hierarchy_of_fallback {fallback : Client σ} (h : sources.result = .ok index) (hnone : index.find? c = none) :
    hierarchy sources (some fallback) start c =
      (valueOf (fallback.load c ⟨start, #[]⟩)).map fun info => ⟨[], fun _ => info⟩ := by
  simp only [hierarchy, h, bind, Except.bind, hnone]

lemma hierarchy_of_none (h : sources.result = .ok index) (hnone : index.find? c = none) :
    hierarchy sources (none : Option (Client σ)) start c = .error (.classNotFound c) := by
  simp only [hierarchy, h, bind, Except.bind, hnone]

lemma mem_names (h : sources.result = .ok index) (ht : index.find? c = some t) : c ∈ sources.names := by
  simp only [Sources.names, h, Index.names, List.mem_eraseDups]
  have hname := List.find?_some ht
  exact List.mem_map.2 ⟨t, List.mem_of_find?_eq_some ht, by simpa using hname⟩

/-- The indexed types bound the hierarchy. -/
lemma hierarchy_coveredBy (sources : Sources) (fallback? : Option (Client σ)) (start : σ) :
    (hierarchy sources fallback? start).CoveredBy sources.names := by
  intro c o ho hne
  cases h : sources.result with
  | error e =>
    rw [hierarchy_of_error h] at ho
    cases ho
  | ok index =>
    cases hfind : index.find? c with
    | some t => exact mem_names h hfind
    | none =>
      cases fallback? with
      | none =>
        rw [hierarchy_of_none h hfind] at ho
        cases ho
      | some fallback =>
        rw [hierarchy_of_fallback h hfind] at ho
        cases hload : valueOf (fallback.load c ⟨start, #[]⟩) with
        | error e =>
          rw [hload] at ho
          cases ho
        | ok info =>
          rw [hload] at ho
          cases ho
          exact absurd rfl hne

end Outlines

/-! ## Steps that keep the classes -/

/-- Two sessions in which the kept classes are the given ones and the other client's state is in `J`. -/
structure Still (J : σ → Prop) (cache cache' : Cache) (s t : Session (ClientState σ)) : Prop where
  cache : s.state.cache = cache
  cache' : t.state.cache = cache'
  fallback : J s.state.fallback
  fallback' : J t.state.fallback

lemma Still.of_state {cache cache' : Cache} {s s' t t' : Session (ClientState σ)} (h : Still J cache cache' s t)
    (hs : s'.state = s.state) (ht : t'.state = t.state) : Still J cache cache' s' t' :=
  ⟨hs ▸ h.cache, ht ▸ h.cache', hs ▸ h.fallback, ht ▸ h.fallback'⟩

variable {cache cache' : Cache}

lemma onFallback_eq {ε α : Type} (action : Action σ ε α) (s : Session (ClientState σ)) :
    valueOf (onFallback action s) = valueOf (action ⟨s.state.fallback, s.journal⟩) ∧
      (sessionOf (onFallback action s)).state =
        { s.state with fallback := (sessionOf (action ⟨s.state.fallback, s.journal⟩)).state } := by
  simp only [onFallback, Action.onPart]
  cases action ⟨s.state.fallback, s.journal⟩ <;> exact ⟨rfl, rfl⟩

lemma onFallback_alike {fallback : Client σ} (hsteady : fallback.SteadyOn sources.Lacks J) (hc : sources.Lacks c) :
    Alike (Still J cache cache') (onFallback (fallback.load c)) (onFallback (fallback.load c)) := by
  intro s t hst
  obtain ⟨hvalue, hstate⟩ := onFallback_eq (fallback.load c) s
  obtain ⟨hvalue', hstate'⟩ := onFallback_eq (fallback.load c) t
  refine ⟨?_, ?_, ?_, ?_, ?_⟩
  · rw [hvalue, hvalue']
    exact hsteady.same c _ _ hc hst.fallback hst.fallback'
  · rw [hstate]
    exact hst.cache
  · rw [hstate']
    exact hst.cache'
  · rw [hstate]
    exact hsteady.keeps c _ hc hst.fallback
  · rw [hstate']
    exact hsteady.keeps c _ hc hst.fallback'

lemma knows_alike (hsteady : ∀ fallback ∈ fallback?, fallback.SteadyOn sources.Lacks J) (hc : sources.Lacks c) :
    Alike (Still J cache cache') (knows fallback? c) (knows fallback? c) := by
  cases fallback? with
  | none => exact .pure false
  | some fallback =>
    have hload : Alike (Still J cache cache') (onFallback (fallback.load c)) (onFallback (fallback.load c)) :=
      onFallback_alike (hsteady fallback rfl) hc
    refine hload.toExcept.bind fun r => ?_
    cases r with
    | ok info => exact .pure true
    | error e =>
      dsimp only
      split
      · exact Alike.bind (fun s t hst => ⟨rfl, hst.of_state rfl rfl⟩) fun _ => .pure false
      · exact .throw e

/-! ## The steps of a load -/

/-- The journal once the sources are indexed. -/
def journalIndexed (sources : Sources) (s : Session (ClientState σ)) : Array Event :=
  if s.state.isIndexed then s.journal else s.journal ++ sources.events

lemma indexed_of_ok (h : sources.result = .ok index) (s : Session (ClientState σ)) :
    indexed sources s = .ok index ⟨{ s.state with isIndexed := true }, journalIndexed sources s⟩ := by
  unfold indexed journalIndexed
  rw [bind_of_ok (Action.state_eq s)]
  cases s.state.isIndexed with
  | true =>
    simp only [h]
    rfl
  | false =>
    simp only [Bool.not_false, if_true, h]
    rw [bind_of_ok (Action.forM_report sources.events s)]
    rfl

lemma indexed_of_error {e : LoadError} (h : sources.result = .error e) (s : Session (ClientState σ)) :
    indexed sources s = .error e ⟨s.state, journalIndexed sources s⟩ := by
  unfold indexed journalIndexed
  rw [bind_of_ok (Action.state_eq s)]
  cases s.state.isIndexed with
  | true =>
    simp only [h]
    rfl
  | false =>
    simp only [Bool.not_false, if_true, h]
    rw [bind_of_ok (Action.forM_report sources.events s)]
    rfl

/-- Loads a supertype, unless it is left out. -/
def loadSupertype (sources : Sources) (fallback? : Option (Client σ)) (index : Index) (depth : Nat) (supertype : String) :
    Action (ClientState σ) LoadError (Option Java.ClassInfo) := do
  if fallback?.isNone ∧ !index.contains supertype then
    Action.report (.supertypeLeftOut supertype)
    return none
  else return some (← load sources fallback? depth supertype)

/-- Loads an indexed type. -/
def loadType (sources : Sources) (fallback? : Option (Client σ)) (index : Index) (depth : Nat) (className : String)
    (t : SourceType) : Action (ClientState σ) LoadError Java.ClassInfo := do
  let naming := typeName index (knows fallback?) t
  let own := t.withImplicit (← convertMembers naming t t.header.members)
  let supertypes ← (← supertypeNames naming t).filterMapM (loadSupertype sources fallback? index depth)
  Action.report (.compiled t.name own.fields.length own.methods.length own.constructors.length)
  let info := t.withInherited own supertypes
  let s ← Action.state
  Action.setState { s with cache := (className, info) :: s.cache }
  return info

lemma load_of_kept {info : Java.ClassInfo} (h : s.state.cache.lookup c = some info) :
    load sources fallback? (depth + 1) c s = .ok info s := by
  rw [load, bind_of_ok (Action.state_eq s)]
  simp only [h]
  rfl

lemma load_of_indexed {s' : Session (ClientState σ)} (hnone : s.state.cache.lookup c = none)
    (hindexed : indexed sources s = .ok index s') :
    load sources fallback? (depth + 1) c s = match index.find? c, fallback? with
      | none, none => .error (.classNotFound c) s'
      | none, some fallback => onFallback (fallback.load c) s'
      | some t, _ => loadType sources fallback? index depth c t s' := by
  rw [load, bind_of_ok (Action.state_eq s)]
  simp only [hnone]
  rw [bind_of_ok hindexed]
  cases index.find? c with
  | none => cases fallback? <;> rfl
  | some t => rfl

lemma load_of_indexed_error {e : LoadError} {s' : Session (ClientState σ)} (hnone : s.state.cache.lookup c = none)
    (hindexed : indexed sources s = .error e s') : load sources fallback? (depth + 1) c s = .error e s' := by
  rw [load, bind_of_ok (Action.state_eq s)]
  simp only [hnone]
  rw [bind_of_error hindexed]

lemma loadType_eq (t : SourceType) (s : Session (ClientState σ)) :
    loadType sources fallback? index depth c t s =
      match convertMembers (typeName index (knows fallback?) t) t t.header.members s with
      | .error e s => .error e s
      | .ok own s => match supertypeNames (typeName index (knows fallback?) t) t s with
        | .error e s => .error e s
        | .ok names s => match names.filterMapM (loadSupertype sources fallback? index depth) s with
          | .error e s => .error e s
          | .ok infos s =>
            let members := t.withImplicit own
            let info := t.withInherited members infos
            .ok info ⟨{ s.state with cache := (c, info) :: s.state.cache },
              s.journal.push (.compiled t.name members.fields.length members.methods.length members.constructors.length)⟩ := by
  unfold loadType
  cases hown : convertMembers (typeName index (knows fallback?) t) t t.header.members s with
  | error e s₁ => rw [bind_of_error hown]
  | ok own s₁ =>
    rw [bind_of_ok hown]
    dsimp only
    cases hnames : supertypeNames (typeName index (knows fallback?) t) t s₁ with
    | error e s₂ => rw [bind_of_error hnames]
    | ok names s₂ =>
      rw [bind_of_ok hnames]
      dsimp only
      cases hsupers : names.filterMapM (loadSupertype sources fallback? index depth) s₂ with
      | error e s₃ => rw [bind_of_error hsupers]
      | ok infos s₃ =>
        rw [bind_of_ok hsupers]
        rfl

lemma isAvailable_eq_false_iff :
    isAvailable fallback? index c = false ↔ fallback?.isNone ∧ (!index.contains c) = true := by
  cases fallback? <;> simp [isAvailable]

lemma loadSupertype_leftOut (h : isAvailable fallback? index c = false) (s : Session (ClientState σ)) :
    loadSupertype sources fallback? index depth c s = .ok none ⟨s.state, s.journal.push (.supertypeLeftOut c)⟩ := by
  unfold loadSupertype
  rw [if_pos (isAvailable_eq_false_iff.1 h), bind_of_ok (Action.report_eq _ s)]
  rfl

lemma loadSupertype_eq (h : isAvailable fallback? index c = true) :
    loadSupertype sources fallback? index depth c = load sources fallback? depth c >>= fun info => pure (some info) := by
  have hin := mt isAvailable_eq_false_iff.2 (Bool.eq_false_iff.not_left.2 h)
  unfold loadSupertype
  rw [if_neg hin]

/-! ## What a load comes to -/

/-- What a load does: it comes to what the hierarchy gives, keeps classes as the hierarchy gives them, and the state of
the other client stays in `J`. -/
structure Loads (h : Hierarchy) (J : σ → Prop) (depth : Nat) (c : String)
    (r : EStateM.Result LoadError (Session (ClientState σ)) Java.ClassInfo) : Prop where
  agrees : h.Agrees depth c (valueOf r)
  answers : h.Answers (sessionOf r).state.cache
  fallback : J (sessionOf r).state.fallback

/-- What loads of several classes do one after the other. -/
structure LoadsAll (h : Hierarchy) (J : σ → Prop) (depth : Nat) (cs : List String)
    (r : EStateM.Result LoadError (Session (ClientState σ)) (List Java.ClassInfo)) : Prop where
  agrees : h.AgreesAll depth cs (valueOf r)
  answers : h.Answers (sessionOf r).state.cache
  fallback : J (sessionOf r).state.fallback

variable {h : Hierarchy}

/-- Supertypes that are not left out are loaded one after the other. -/
lemma loadsAll_supertypes
    (hload : ∀ c (s : Session (ClientState σ)), h.Answers s.state.cache → J s.state.fallback →
      Loads h J depth c (load sources fallback? depth c s))
    (index : Index) (cs : List String) (s : Session (ClientState σ)) (hs : h.Answers s.state.cache)
    (hJ : J s.state.fallback) :
    LoadsAll h J depth (cs.filter (isAvailable fallback? index))
      (cs.filterMapM (loadSupertype sources fallback? index depth) s) := by
  induction cs generalizing s with
  | nil => exact ⟨.nil, hs, hJ⟩
  | cons c cs ih =>
    rw [List.filterMapM_cons]
    by_cases hin : isAvailable fallback? index c = true
    · rw [List.filter_cons_of_pos hin, loadSupertype_eq hin, bind_assoc]
      have hfirst := hload c s hs hJ
      cases hrun : load sources fallback? depth c s with
      | error e s₁ =>
        rw [hrun] at hfirst
        rw [bind_of_error hrun]
        exact ⟨.stopped hfirst.agrees, hfirst.answers, hfirst.fallback⟩
      | ok info s₁ =>
        rw [hrun] at hfirst
        rw [bind_of_ok hrun, pure_bind]
        dsimp only
        have hrest := ih s₁ hfirst.answers hfirst.fallback
        have hall := Hierarchy.AgreesAll.cons hfirst.agrees hrest.agrees
        cases hmore : cs.filterMapM (loadSupertype sources fallback? index depth) s₁ with
        | error e s₂ =>
          rw [hmore] at hrest hall
          rw [bind_of_error hmore]
          exact ⟨hall, hrest.answers, hrest.fallback⟩
        | ok infos s₂ =>
          rw [hmore] at hrest hall
          rw [bind_of_ok hmore]
          exact ⟨hall, hrest.answers, hrest.fallback⟩
    · rw [List.filter_cons_of_neg hin, bind_of_ok (loadSupertype_leftOut (Bool.eq_false_iff.2 hin) s)]
      exact ih _ hs hJ

section Steady

variable {start : σ} {t : SourceType}

/-- A load of an indexed type comes to what its outline and its supertypes give. -/
lemma loads_type (hsteady : ∀ fallback ∈ fallback?, fallback.SteadyOn sources.Lacks J) (hstart : J start)
    (hindex : sources.result = .ok index) (ht : index.find? c = some t)
    (hload : ∀ c (s : Session (ClientState σ)), (hierarchy sources fallback? start).Answers s.state.cache →
      J s.state.fallback → Loads (hierarchy sources fallback? start) J depth c (load sources fallback? depth c s))
    (s : Session (ClientState σ)) (hs : (hierarchy sources fallback? start).Answers s.state.cache)
    (hJ : J s.state.fallback) :
    Loads (hierarchy sources fallback? start) J (depth + 1) c (loadType sources fallback? index depth c t s) := by
  -- A name is the same here as in the outline, where nothing is kept and the other client is in the state `start`.
  have hnaming : ∀ (cache : Cache) vars u, Alike (Still J cache []) (typeName index (knows fallback?) t vars u)
      (typeName index (knows fallback?) t vars u) :=
    fun cache => typeName_alike (fun d hd => knows_alike hsteady ⟨index, hindex, hd⟩) t
  have hc : hierarchy sources fallback? start c = outline index fallback? start t := hierarchy_of_find? hindex ht
  obtain ⟨hown, hstill⟩ := convertMembers_alike (hnaming s.state.cache) t t.header.members s
    ⟨{ fallback := start }, #[]⟩ ⟨rfl, rfl, hJ, hstart⟩
  rw [loadType_eq]
  cases hrun : convertMembers (typeName index (knows fallback?) t) t t.header.members s with
  | error e s₁ =>
    rw [hrun] at hown hstill
    refine ⟨.of_error ?_, hstill.cache ▸ hs, hstill.fallback⟩
    rw [hc, outline, ← hown]
    rfl
  | ok own s₁ =>
    rw [hrun] at hown hstill
    dsimp only
    obtain ⟨hnames, hstill⟩ := supertypeNames_alike (hnaming s.state.cache) t s₁ ⟨{ fallback := start }, #[]⟩
      ⟨hstill.cache, rfl, hstill.fallback, hstart⟩
    cases hrun' : supertypeNames (typeName index (knows fallback?) t) t s₁ with
    | error e s₂ =>
      rw [hrun'] at hnames hstill
      refine ⟨.of_error ?_, hstill.cache ▸ hs, hstill.fallback⟩
      rw [hc, outline, ← hown, ← hnames]
      rfl
    | ok names s₂ =>
      rw [hrun'] at hnames hstill
      dsimp only
      have ho : hierarchy sources fallback? start c =
          .ok ⟨names.filter (isAvailable fallback? index), t.withInherited (t.withImplicit own)⟩ := by
        rw [hc, outline, ← hown, ← hnames]
        rfl
      have hall := loadsAll_supertypes hload index names s₂ (hstill.cache ▸ hs) hstill.fallback
      have hagrees := Hierarchy.Agrees.of_supertypes ho hall.agrees
      cases hrun'' : names.filterMapM (loadSupertype sources fallback? index depth) s₂ with
      | error e s₃ =>
        rw [hrun''] at hall hagrees
        exact ⟨hagrees, hall.answers, hall.fallback⟩
      | ok infos s₃ =>
        rw [hrun''] at hall hagrees
        obtain ⟨n, hn⟩ := hagrees.settled (fun heq => nomatch heq)
        exact ⟨hagrees, hall.answers.insert hn, hall.fallback⟩

/-- Every load of a client whose kept classes are as the hierarchy gives them is as it should be. -/
theorem loads_load (hsteady : ∀ fallback ∈ fallback?, fallback.SteadyOn sources.Lacks J) (hstart : J start) (depth : Nat)
    (c : String) (s : Session (ClientState σ)) (hs : (hierarchy sources fallback? start).Answers s.state.cache)
    (hJ : J s.state.fallback) :
    Loads (hierarchy sources fallback? start) J depth c (load sources fallback? depth c s) := by
  induction depth generalizing c s with
  | zero => exact ⟨.exhausted, hs, hJ⟩
  | succ depth ih =>
    cases hkept : s.state.cache.lookup c with
    | some info =>
      obtain ⟨n, hn⟩ := hs c info hkept
      rw [load_of_kept hkept]
      exact ⟨.kept hn, hs, hJ⟩
    | none =>
      cases hindex : sources.result with
      | error e =>
        rw [load_of_indexed_error hkept (indexed_of_error hindex s)]
        exact ⟨.of_error (hierarchy_of_error hindex), hs, hJ⟩
      | ok index =>
        obtain ⟨s₁, hindexed, hs₁, hJ₁⟩ : ∃ s₁, indexed sources s = .ok index s₁ ∧
            (hierarchy sources fallback? start).Answers s₁.state.cache ∧ J s₁.state.fallback :=
          ⟨_, indexed_of_ok hindex s, hs, hJ⟩
        rw [load_of_indexed hkept hindexed]
        cases hfind : index.find? c with
        | some t => exact loads_type hsteady hstart hindex hfind (fun c s => ih c s) s₁ hs₁ hJ₁
        | none =>
          have hlacks : sources.Lacks c := ⟨index, hindex, by rw [Index.contains, hfind]; rfl⟩
          cases fallback? with
          | none => exact ⟨.of_error (hierarchy_of_none hindex hfind), hs₁, hJ₁⟩
          | some fallback =>
            obtain ⟨hvalue, hstill⟩ := onFallback_alike (hsteady fallback rfl) hlacks s₁ ⟨{ fallback := start }, #[]⟩
              ⟨rfl, rfl, hJ₁, hstart⟩
            refine ⟨?_, hstill.cache ▸ hs₁, hstill.fallback⟩
            have hc : hierarchy sources (some fallback) start c =
                (valueOf (fallback.load c ⟨start, #[]⟩)).map fun info => ⟨[], fun _ => info⟩ :=
              hierarchy_of_fallback hindex hfind
            have hanswer := hvalue.trans (onFallback_eq (fallback.load c) ⟨{ fallback := start }, #[]⟩).1
            dsimp only
            rw [hanswer]
            cases hload : valueOf (fallback.load c ⟨start, #[]⟩) with
            | error e =>
              rw [hload] at hc
              exact .of_error hc
            | ok info =>
              rw [hload] at hc
              exact .of_supertypes hc .nil

end Steady

/-! ## Histories of loads -/

section Histories

variable {start other : σ} (hsteady : ∀ fallback ∈ fallback?, fallback.SteadyOn sources.Lacks J) (hstart : J start)
include hsteady hstart

lemma answers_afterLoads (cs : List String) (hs : (hierarchy sources fallback? start).Answers s.state.cache)
    (hJ : J s.state.fallback) :
    (hierarchy sources fallback? start).Answers ((client sources fallback?).afterLoads cs s).state.cache ∧
      J ((client sources fallback?).afterLoads cs s).state.fallback := by
  induction cs generalizing s with
  | nil => exact ⟨hs, hJ⟩
  | cons c cs ih =>
    have hload := loads_load hsteady hstart (sources.names.length + 1) c s hs hJ
    exact ih hload.answers hload.fallback

/-- What the client says of a class is what the hierarchy gives, whatever it was asked for before. -/
theorem answerAfter_eq (hother : J other) (before : List String) (c : String) :
    (client sources fallback?).answerAfter { fallback := other } before c =
      (hierarchy sources fallback? start).assemble (sources.names.length + 1) c := by
  obtain ⟨hs, hJ⟩ := answers_afterLoads hsteady hstart before (s := ⟨{ fallback := other }, #[]⟩) .nil hother
  have hroom : (hierarchy sources fallback? start).Room sources.names [] (sources.names.length + 1) c :=
    .start (Nat.lt_succ_self _)
  exact hroom.eq_assemble (hierarchy_coveredBy sources fallback? start) (loads_load hsteady hstart _ c _ hs hJ).agrees

end Histories

/-! ## Recorded questions -/

/-- The session without the record of what the other client was asked for. -/
def unrecorded (s : Session (ClientState (σ × List String))) : Session (ClientState σ) :=
  ⟨⟨s.state.isIndexed, s.state.cache, s.state.fallback.1⟩, s.journal⟩

lemma onFallback_recording (fallback : Client σ) (c : String) :
    Alike (fun s t => t = unrecorded s) (onFallback (fallback.recording.load c)) (onFallback (fallback.load c)) := by
  rintro s t rfl
  simp only [onFallback, Client.recording, Action.onPart, unrecorded]
  cases fallback.load c ⟨s.state.fallback.1, s.journal⟩ <;> exact ⟨rfl, rfl⟩

lemma knows_recording (fallback? : Option (Client σ)) (c : String) :
    Alike (fun s t => t = unrecorded s) (knows (fallback?.map Client.recording) c) (knows fallback? c) := by
  cases fallback? with
  | none => exact .pure false
  | some fallback =>
    refine (onFallback_recording fallback c).toExcept.bind fun r => ?_
    cases r with
    | ok info => exact .pure true
    | error e =>
      dsimp only
      split
      · refine Alike.bind ?_ fun _ => .pure false
        rintro s t rfl
        exact ⟨rfl, rfl⟩
      · exact .throw e

lemma loadSupertype_recording
    (hload : ∀ c, Alike (fun s t => t = unrecorded s) (load sources (fallback?.map Client.recording) depth c)
      (load sources fallback? depth c)) (c : String) :
    Alike (fun s t => t = unrecorded s) (loadSupertype sources (fallback?.map Client.recording) index depth c)
      (loadSupertype sources fallback? index depth c) := by
  unfold loadSupertype
  rw [Option.isNone_map]
  split
  · refine Alike.bind ?_ fun _ => .pure none
    rintro s t rfl
    exact ⟨rfl, rfl⟩
  · exact (hload c).bind fun info => .pure (some info)

lemma loadType_recording
    (hload : ∀ c, Alike (fun s t => t = unrecorded s) (load sources (fallback?.map Client.recording) depth c)
      (load sources fallback? depth c)) (c : String) (t : SourceType) :
    Alike (fun s t => t = unrecorded s) (loadType sources (fallback?.map Client.recording) index depth c t)
      (loadType sources fallback? index depth c t) := by
  have hnaming : ∀ vars u, Alike (fun s t => t = unrecorded s)
      (typeName index (knows (fallback?.map Client.recording)) t vars u)
      (typeName index (knows fallback?) t vars u) :=
    typeName_alike (fun c _ => knows_recording fallback? c) t
  refine (convertMembers_alike hnaming t t.header.members).bind fun own => ?_
  refine (supertypeNames_alike hnaming t).bind fun names => ?_
  refine (Alike.filterMapM fun d _ => loadSupertype_recording hload d).bind fun infos => ?_
  rintro s t rfl
  exact ⟨rfl, rfl⟩

/-- Recording changes nothing else. -/
theorem load_recording (sources : Sources) (fallback? : Option (Client σ)) (depth : Nat) (c : String) :
    Alike (fun s t => t = unrecorded s) (load sources (fallback?.map Client.recording) depth c)
      (load sources fallback? depth c) := by
  induction depth generalizing c with
  | zero => exact .throw LoadError.cyclicInheritance
  | succ depth ih =>
    rintro s t rfl
    cases hkept : s.state.cache.lookup c with
    | some info =>
      have hkept' : (unrecorded s).state.cache.lookup c = some info := hkept
      rw [load_of_kept hkept, load_of_kept hkept']
      exact ⟨rfl, rfl⟩
    | none =>
      have hkept' : (unrecorded s).state.cache.lookup c = none := hkept
      cases hindex : sources.result with
      | error e =>
        rw [load_of_indexed_error hkept (indexed_of_error hindex _),
          load_of_indexed_error hkept' (indexed_of_error hindex _)]
        exact ⟨rfl, rfl⟩
      | ok index =>
        rw [load_of_indexed hkept (indexed_of_ok hindex _), load_of_indexed hkept' (indexed_of_ok hindex _)]
        cases index.find? c with
        | some t => exact loadType_recording ih c t _ _ rfl
        | none =>
          cases fallback? with
          | none => exact ⟨rfl, rfl⟩
          | some fallback => exact onFallback_recording fallback c _ _ rfl

lemma afterLoads_recording (cs : List String) (s : Session (ClientState (σ × List String))) :
    (client sources fallback?).afterLoads cs (unrecorded s) =
      unrecorded ((client sources (fallback?.map Client.recording)).afterLoads cs s) := by
  induction cs generalizing s with
  | nil => rfl
  | cons c cs ih =>
    obtain ⟨-, hnext⟩ := load_recording sources fallback? (sources.names.length + 1) c s _ rfl
    rw [Client.afterLoads, List.foldl_cons, Client.afterLoads, List.foldl_cons]
    exact (congrArg ((client sources fallback?).afterLoads cs) hnext).trans (ih _)

/-- The session after each of the classes was asked for, with a record of what the other client was asked for. -/
def recordedLoads (sources : Sources) (fallback? : Option (Client σ)) (start : σ) (classNames : List String) :
    Session (ClientState (σ × List String)) :=
  (client sources (fallback?.map Client.recording)).afterLoads classNames ⟨{ fallback := (start, []) }, #[]⟩

end Source

/-- A client that is steady is so while it is recorded, and the record then has only such classes. -/
lemma Client.SteadyOn.recording {σ : Type} {client : Client σ} {classes : String → Prop} {J : σ → Prop}
    (h : client.SteadyOn classes J) :
    client.recording.SteadyOn classes fun state => J state.1 ∧ ∀ c ∈ state.2, classes c := by
  have hload : ∀ c (s : Session (σ × List String)),
      valueOf (client.recording.load c s) = valueOf (client.load c ⟨s.state.1, s.journal⟩) ∧
        (sessionOf (client.recording.load c s)).state =
          ((sessionOf (client.load c ⟨s.state.1, s.journal⟩)).state, s.state.2 ++ [c]) := by
    intro c s
    simp only [Client.recording, Action.onPart]
    cases client.load c ⟨s.state.1, s.journal⟩ <;> exact ⟨rfl, rfl⟩
  constructor
  · intro c s t hc hs ht
    rw [(hload c s).1, (hload c t).1]
    exact h.same c _ _ hc hs.1 ht.1
  · intro c s hc hs
    rw [(hload c s).2]
    refine ⟨h.keeps c _ hc hs.1, fun d hd => ?_⟩
    rcases List.mem_append.1 hd with hd | hd
    · exact hs.2 d hd
    · rw [List.mem_singleton.1 hd]
      exact hc

/-- A client that lists classes is steady as long as the classes it keeps are as they are listed. -/
lemma Javap.steadyOn_client (settings : Javap.Settings) (host : Javap.Host) (classes : String → Prop) :
    (Javap.client settings host).SteadyOn classes (Javap.Consistent (Javap.hierarchy settings host)) := by
  have hanswer : ∀ c (s : Session Cache), Javap.Consistent (Javap.hierarchy settings host) s.state →
      valueOf ((Javap.client settings host).load c s) =
        (Javap.hierarchy settings host).assemble (host.outcomes.length + 1) c := by
    intro c s hs
    exact (Javap.room_start settings host c).eq_assemble (Javap.hierarchy_coveredBy settings host)
      (Javap.loads_load settings host _ c s hs).agrees
  constructor
  · intro c s t _ hs ht
    rw [hanswer c s hs, hanswer c t ht]
  · exact fun c s _ hs => (Javap.loads_load settings host _ c s hs).consistent

namespace Source

variable {σ : Type}

/-- If the other client says the same of each class that the sources lack whenever it is asked, this client says of each
class, whatever it was asked for before, what a new one says. In the course of any loads the other client is asked for
classes that the sources lack and for no others; recording what it is asked for changes nothing else. -/
theorem answers_as_new_and_asks_lacking (sources : Sources) (fallback? : Option (Client σ)) (J : σ → Prop)
    (hsteady : ∀ fallback ∈ fallback?, fallback.SteadyOn sources.Lacks J) (start : σ) (hstart : J start)
    (classNames : List String) :
    (∀ before c after, classNames = before ++ c :: after → ∀ other, J other →
      (client sources fallback?).answerAfter { fallback := start } before c =
        (client sources fallback?).answerAfter { fallback := other } [] c) ∧
    (client sources fallback?).afterLoads classNames ⟨{ fallback := start }, #[]⟩ =
      unrecorded (recordedLoads sources fallback? start classNames) ∧
    ∀ c ∈ (recordedLoads sources fallback? start classNames).state.fallback.2, sources.Lacks c := by
  refine ⟨?_, ?_, ?_⟩
  · rintro before c after - other hother
    rw [answerAfter_eq hsteady hstart hstart, answerAfter_eq hsteady hstart hother]
  · exact afterLoads_recording classNames ⟨{ fallback := (start, []) }, #[]⟩
  · have hrecording : ∀ fallback ∈ fallback?.map Client.recording, fallback.SteadyOn sources.Lacks
        fun state => J state.1 ∧ ∀ c ∈ state.2, sources.Lacks c := by
      intro recording hmem
      obtain ⟨fallback, hfallback, rfl⟩ := Option.map_eq_some_iff.1 hmem
      exact (hsteady fallback hfallback).recording
    have hnew : J (start, ([] : List String)).1 ∧ ∀ c ∈ (start, ([] : List String)).2, sources.Lacks c :=
      ⟨hstart, by simp⟩
    exact (answers_afterLoads hrecording hnew classNames (s := ⟨{ fallback := (start, []) }, #[]⟩) .nil hnew).2.2

/-- A file that declares `a.D` and one that declares `C`, which extends some `B` and imports `a` and `b` on demand. -/
def importing : List CompilationUnit :=
  [{ package := ["a"], types := [.mk { kind := .classType, name := "D" } []] },
   { imports := [{ path := ["a"], isOnDemand := true }, { path := ["b"], isOnDemand := true }],
     types := [.mk
       { kind := .classType, name := "C", extended := [{ head := .named ["B"] }],
         members := [.field [] { head := .named ["D"] } [{ name := "d" }]] } []] }]

/-- The index of the two files. -/
def Sources.importing : Sources :=
  ⟨.ok ⟨Source.importing.flatMap CompilationUnit.sourceTypes⟩, []⟩

/-- What the tool says of the classes that these sources lack. -/
def listedBeside : Javap.Host where
  located? := some "javap"
  outcomes :=
    [Javap.lists "java.lang.Object" "public class java.lang.Object \x7b\n\x7d\n",
     Javap.lists "b.B" "public class b.B \x7b\n\x7d\n"]

/-- `a.B` and `b.B` are asked for while `B` is resolved, but `a.D` is not asked for. -/
theorem answers_as_new_and_asks_lacking_importing :
    (∀ fallback ∈ some (Javap.client {} listedBeside), fallback.SteadyOn Sources.importing.Lacks
      (Javap.Consistent (Javap.hierarchy {} listedBeside))) ∧
    Javap.Consistent (Javap.hierarchy {} listedBeside) [] ∧
    (client .importing (some (Javap.client {} listedBeside))).answerAfter { fallback := [] } ["a.D"] "C" =
      (client .importing (some (Javap.client {} listedBeside))).answerAfter { fallback := [] } [] "C" ∧
    (recordedLoads .importing (some (Javap.client {} listedBeside)) [] ["a.D", "C"]).state.fallback.2 =
      ["java.lang.Object", "a.B", "b.B", "b.B"] ∧
    Sources.importing.Lacks "a.B" := by
  have hsteady : ∀ fallback ∈ some (Javap.client {} listedBeside), fallback.SteadyOn Sources.importing.Lacks
      (Javap.Consistent (Javap.hierarchy {} listedBeside)) := by
    intro fallback hmem
    cases hmem
    exact Javap.steadyOn_client {} listedBeside _
  have hasked : (recordedLoads .importing (some (Javap.client {} listedBeside)) [] ["a.D", "C"]).state.fallback.2 =
      ["java.lang.Object", "a.B", "b.B", "b.B"] := by decide +kernel
  obtain ⟨hsame, -, hlacks⟩ := answers_as_new_and_asks_lacking .importing (some (Javap.client {} listedBeside))
    (Javap.Consistent (Javap.hierarchy {} listedBeside)) hsteady [] .nil ["a.D", "C"]
  refine ⟨hsteady, .nil, hsame ["a.D"] "C" [] rfl [] .nil, hasked, hlacks "a.B" ?_⟩
  rw [hasked]
  exact List.mem_cons_of_mem _ List.mem_cons_self

end Source

end Typings
