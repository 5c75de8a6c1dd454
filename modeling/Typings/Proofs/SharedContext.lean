import Mathlib.Data.List.Nodup
import Typings.Proofs.ResolvedClasses
import Typings.Proofs.WalkInvariants

/-!
# Calls that share a context

Calls may share a context whatever the earlier ones came to. Together they ask the client at most once for each class and
return at most one module for it, and never one for a class that was visited or marked as visited before. Which classes
a client was asked for is seen by recording them, which leaves everything else as it is.
-/

namespace Typings

variable {σ : Type}

/-! ## Recorded questions -/

namespace Client

/-- Each class is reported under the name that was asked for, whatever the client has learnt by then. -/
def IsFaithful (client : Client σ) : Prop :=
  ∀ className s info s', client.load className s = .ok info s' → info.name = className

/-- The client that also keeps the names that it was asked for, in their order. -/
def recording (client : Client σ) : Client (σ × List String) where
  load className := Action.onPart (·.1) (fun state s => (state, s.2 ++ [className])) (client.load className)
  known := client.known

lemma IsFaithful.recording {client : Client σ} (h : client.IsFaithful) : client.recording.IsFaithful := by
  intro className s info s' hload
  simp only [Client.recording, Action.onPart] at hload
  split at hload
  · rename_i hload'
    cases hload
    exact h _ _ _ _ hload'
  · cases hload

end Client

namespace Traversal

lemma openClass_eq (client : Client σ) (visited pending : List String) (className : String) (s : Session σ) :
    openClass client visited pending className s =
      match client.load className { s with journal := s.journal.push (.opened className pending) } with
      | .error e s => .error (.load e) s
      | .ok info s => match Conversion.convertClass info visited with
        | .error e => .error (.unsupported e) s
        | .ok c => .ok ⟨⟨c.info.name, c.contents⟩, c.references.unresolved⟩ (s.noting c.events) := by
  simp only [openClass, bind, EStateM.bind, Action.report_eq, Action.withError]
  cases client.load className { s with journal := s.journal.push (.opened className pending) } with
  | error e s' => rfl
  | ok info s' =>
    dsimp only
    cases Conversion.convertClass info visited with
    | error e => rfl
    | ok c =>
      simp only [EStateM.bind, Action.forM_report]
      rfl

section Recording

variable {client : Client σ} {visited pending : List String} {className : String} {s s' : Session (σ × List String)}

/-- Opening a class asks for it once, whether it succeeds or fails. -/
lemma asked_openClass (client : Client σ) (visited pending : List String) (className : String)
    (s : Session (σ × List String)) :
    (Action.sessionOf (openClass client.recording visited pending className s)).state.2 = s.state.2 ++ [className] := by
  rw [openClass_eq]
  simp only [Client.recording, Action.onPart]
  cases client.load className ⟨s.state.1, s.journal.push (.opened className pending)⟩ with
  | error e t => rfl
  | ok info t =>
    dsimp only
    cases Conversion.convertClass info visited <;> rfl

lemma name_of_openClass {client : Client σ} (hname : client.IsFaithful) {s s' : Session σ} {frame : Frame}
    (h : openClass client visited pending className s = .ok frame s') : frame.module.name = className := by
  rw [openClass_eq] at h
  cases hload : client.load className { s with journal := s.journal.push (.opened className pending) } with
  | error e t => simp [hload] at h
  | ok info t =>
    cases hc : Conversion.convertClass info visited with
    | error e => simp [hload, hc] at h
    | ok c =>
      simp only [hload, hc] at h
      cases h
      exact (congrArg Java.ClassInfo.name (Conversion.convertClass_ok hc).1).trans (hname _ _ _ _ hload)

/-- The session of the recording client shows what the client itself sees. -/
def Shows (s : Session (σ × List String)) (t : Session σ) : Prop :=
  t.state = s.state.1 ∧ t.journal = s.journal

lemma recording_alike (client : Client σ) (below : List Frame) :
    ClientsAlike Shows client.recording client below below where
  known := rfl
  opens := by
    rintro visited visited' s ⟨state, journal⟩ frames className hsame ⟨hstate, hjournal⟩
    cases hstate
    cases hjournal
    rw [openClass_eq, openClass_eq]
    simp only [Client.recording, Action.onPart]
    cases client.load className ⟨s.state.1, s.journal.push (.opened className (pendingImports (frames ++ below)))⟩ with
    | error e t => exact .error ⟨rfl, rfl⟩
    | ok info t =>
      dsimp only
      rw [Conversion.convertClass_congr hsame]
      cases Conversion.convertClass info visited with
      | error e => exact .error ⟨rfl, rfl⟩
      | ok c => exact .ok ⟨rfl, rfl⟩

end Recording

/-! ## One call after the other -/

/-- A use of a shared context. -/
inductive Call
  | generate (className : String)
  | generateAll (classNames : List String)
  | enter (className : String)
  deriving DecidableEq, Repr

/-- Makes a call; marking a class as visited returns no modules. -/
def Call.perform (client : Client σ) : Call → Action (Traversal σ) GenerationError (List Module)
  | .generate className => Traversal.generate client className
  | .generateAll classNames => Traversal.generateAll client classNames
  | .enter className => do
    modify fun s => { s with state := { s.state with context := (s.state.context.enter className).2 } }
    return []

/-- The modules that a call returns; none if it fails. -/
def returned (r : EStateM.Result GenerationError (Session (Traversal σ)) (List Module)) : List Module :=
  match r with
  | .ok modules _ => modules
  | .error _ _ => []

/-- Makes calls one after the other, each on what the one before has left behind, also when that failed. Gives the
modules that each of them returns. -/
def history (client : Client σ) : List Call → Session (Traversal σ) → List (List Module) × Session (Traversal σ)
  | [], s => ([], s)
  | call :: calls, s =>
    let r := call.perform client s
    let later := history client calls (Action.sessionOf r)
    (returned r :: later.1, later.2)

/-- The classes that the client is asked for in the course of the calls, in their order. -/
def lookups (client : Client σ) (calls : List Call) (s : Session (Traversal σ)) : List String :=
  (history client.recording calls ⟨⟨(s.state.client, []), s.state.context⟩, s.journal⟩).2.state.client.2

lemma history_append (client : Client σ) (before after : List Call) (s : Session (Traversal σ)) :
    history client (before ++ after) s =
      ((history client before s).1 ++ (history client after (history client before s).2).1,
        (history client after (history client before s).2).2) := by
  induction before generalizing s with
  | nil => rfl
  | cons call before ih => simp only [List.cons_append, history, ih]

/-! ## What a call adds -/

/-- A call takes the first traversal to the second: it opens new classes, each of which it asks for and marks as visited,
and returns modules of some of them, at most one for each. -/
structure Advances (before after : Traversal (σ × List String)) (opened : List String) (modules : List Module) :
    Prop where
  asked : after.client.2 = before.client.2 ++ opened
  nodup : opened.Nodup
  fresh : ∀ c ∈ opened, c ∉ before.context.visited
  visited : opened ⊆ after.context.visited
  grows : before.context.visited ⊆ after.context.visited
  once : (modules.map (·.name)).Nodup
  named : modules.map (·.name) ⊆ opened

namespace Advances

variable {first second third : Traversal (σ × List String)} {opened opened' : List String} {modules more : List Module}

lemma refl (t : Traversal (σ × List String)) : Advances t t [] [] :=
  ⟨by simp, by simp, by simp, by simp, List.Subset.refl _, by simp, by simp⟩

lemma trans (h : Advances first second opened modules) (h' : Advances second third opened' more) :
    Advances first third (opened ++ opened') (modules ++ more) where
  asked := by rw [h'.asked, h.asked, List.append_assoc]
  nodup := h.nodup.append h'.nodup fun c hc hc' => h'.fresh c hc' (h.visited hc)
  fresh c hc := by
    rcases List.mem_append.1 hc with hc | hc
    · exact h.fresh c hc
    · exact fun hin => h'.fresh c hc (h.grows hin)
  visited := List.append_subset.2 ⟨fun c hc => h'.grows (h.visited hc), h'.visited⟩
  grows := fun c hc => h'.grows (h.grows hc)
  once := by
    rw [List.map_append]
    exact h.once.append h'.once fun c hc hc' => h'.fresh c (h'.named hc') (h.visited (h.named hc))
  named := by
    rw [List.map_append]
    exact List.append_subset.2 ⟨fun c hc => List.mem_append_left _ (h.named hc),
      fun c hc => List.mem_append_right _ (h'.named hc)⟩

/-- A failure loses the modules, not the classes that were opened. -/
lemma failed (h : Advances first second opened modules) : Advances first second opened [] :=
  { h with once := by simp, named := by simp }

end Advances

section Walk

variable {client : Client σ} {opened visited : List String} {className : String}

/-- The opened classes are distinct and were not visited before. -/
def AreNew (opened visited : List String) : Prop :=
  opened.Nodup ∧ ∀ c ∈ opened, c ∉ visited

lemma AreNew.snoc (h : AreNew opened visited) (hnew : className ∉ opened.reverse ++ visited) :
    AreNew (opened ++ [className]) visited := by
  simp only [List.mem_append, List.mem_reverse, not_or] at hnew
  refine ⟨List.nodup_append.2 ⟨h.1, by simp, fun c hc d hd heq => ?_⟩, fun c hc => ?_⟩
  · rw [List.mem_singleton.1 hd] at heq
    exact hnew.1 (heq ▸ hc)
  · rcases List.mem_append.1 hc with hc | hc
    · exact h.2 c hc
    · exact List.mem_singleton.1 hc ▸ hnew.2

/-- What a walk of the recording client keeps turn by turn: the opened classes are new, each was asked for, and they are
those of the finished modules and of the frames. -/
def Opening (before : Context) (s : Session (σ × List String)) (moment : Moment (σ × List String)) : Prop :=
  ∃ opened, AreNew opened before.visited ∧ moment.visited = opened.reverse ++ before.visited ∧
    moment.session.state.2 = s.state.2 ++ opened ∧
    (moment.finished.map (·.name) ++ moment.frames.map (·.module.name)).Perm opened

/-- What a walk of the recording client leaves behind. -/
def Opened (before : Context) (s : Session (σ × List String)) (o : Outcome (σ × List String)) : Prop :=
  ∃ opened, AreNew opened before.visited ∧ o.context.visited = opened.reverse ++ before.visited ∧
    o.session.state.2 = s.state.2 ++ opened ∧
    ∀ modules, o.result = .ok modules → (modules.map (·.name)).Perm opened

lemma asked_of_ok {pending : List String} {s s' : Session (σ × List String)} {frame : Frame}
    (h : openClass client.recording visited pending className s = .ok frame s') :
    s'.state.2 = s.state.2 ++ [className] := by
  have hasked := asked_openClass client visited pending className s
  rwa [h] at hasked

lemma asked_of_fails {pending : List String} {s s' : Session (σ × List String)} {e : GenerationError}
    (h : OpeningFails client.recording visited pending className s e s') :
    s'.state.2 = s.state.2 ++ [className] := by
  cases h with
  | failed hopen =>
    have hasked := asked_openClass client visited pending className s
    rwa [hopen] at hasked
  | unknown hopen _ => exact asked_of_ok hopen

theorem keeps_opening (hname : client.IsFaithful) (before : Context) (s : Session (σ × List String)) :
    Keeps client.recording before.pending (Opening before s) (Opened before s) where
  drop _ h := h
  finish := by
    rintro visited m fs finished t ⟨opened, hnew, hvisited, hasked, hperm⟩
    refine ⟨opened, hnew, hvisited, hasked, ?_⟩
    simpa using hperm
  enter := by
    rintro visited m className imports fs finished t frame t' hfresh ⟨opened, hnew, hvisited, hasked, hperm⟩ hopen
    cases hvisited
    have hframe := name_of_openClass hname.recording hopen
    refine ⟨opened ++ [className], hnew.snoc hfresh, by simp, ?_, ?_⟩
    · rw [asked_of_ok hopen, hasked, List.append_assoc]
    · simp only [List.map_cons, hframe]
      exact List.perm_middle.trans ((List.perm_append_singleton _ _).symm.trans (hperm.append_right _))
  done := by
    rintro visited finished t ⟨opened, hnew, hvisited, hasked, hperm⟩
    refine ⟨opened, hnew, hvisited, hasked, fun modules hok => ?_⟩
    cases hok
    simpa using hperm
  fail := by
    rintro visited m className imports fs finished t e t' hfresh ⟨opened, hnew, hvisited, hasked, _⟩ hfails
    cases hvisited
    refine ⟨opened ++ [className], hnew.snoc hfresh, by simp, ?_, by simp⟩
    rw [asked_of_fails hfails, hasked, List.append_assoc]

lemma generateFrom_opened (hname : client.IsFaithful) (className : String) (before : Context)
    (s : Session (σ × List String)) : Opened before s (generateFrom client.recording className before s) := by
  by_cases hc : className ∈ before.visited
  · rw [generateFrom, if_pos hc]
    refine ⟨[], ⟨by simp, by simp⟩, rfl, by simp, fun modules hok => ?_⟩
    cases hok
    simp
  · have hroot : AreNew [className] before.visited := ⟨by simp, by simpa using hc⟩
    refine (keeps_opening hname before s).generateFrom hc (fun frame s' hopen => ?_) fun e s' hopen => ?_
    · have hframe := name_of_openClass hname.recording hopen
      exact ⟨[className], hroot, rfl, asked_of_ok hopen, by simp [hframe]⟩
    · exact ⟨[className], hroot, rfl, asked_of_fails (.failed hopen), by simp⟩

end Walk

section Calls

variable {client : Client σ}

lemma returned_eq_ok {r : EStateM.Result GenerationError (Session (Traversal σ)) (List Module)} {modules : List Module}
    (h : Action.valueOf r = .ok modules) : returned r = modules := by
  cases r with
  | ok modules' s => exact Except.ok.inj h
  | error e s => cases h

lemma returned_eq_nil {r : EStateM.Result GenerationError (Session (Traversal σ)) (List Module)} {e : GenerationError}
    (h : Action.valueOf r = .error e) : returned r = [] := by
  cases r with
  | ok modules s => cases h
  | error e' s => rfl

lemma generate_advances (hname : client.IsFaithful) (className : String) (s : Session (Traversal (σ × List String))) :
    ∃ opened, Advances s.state (Action.sessionOf (generate client.recording className s)).state opened
      (returned (generate client.recording className s)) := by
  have hvalue := valueOf_generate client.recording className s
  obtain ⟨opened, hnew, hvisited, hasked, hmodules⟩ :=
    generateFrom_opened hname className s.state.context ⟨s.state.client, s.journal⟩
  refine ⟨opened, ?_⟩
  rw [state_generate]
  generalize generateFrom client.recording className s.state.context ⟨s.state.client, s.journal⟩ = o at *
  have hall : Advances s.state ⟨o.session.state, o.context⟩ opened [] := by
    refine ⟨hasked, hnew.1, hnew.2, ?_, ?_, by simp, by simp⟩
    · simp [hvisited]
    · simp [hvisited]
  cases hresult : o.result with
  | error e =>
    rw [hresult] at hvalue
    rwa [returned_eq_nil hvalue]
  | ok modules =>
    rw [hresult] at hvalue
    rw [returned_eq_ok hvalue]
    have hperm := hmodules modules hresult
    exact { hall with once := hperm.nodup_iff.2 hnew.1, named := hperm.subset }

lemma generateAll_advances (hname : client.IsFaithful) (classNames : List String)
    (s : Session (Traversal (σ × List String))) :
    ∃ opened, Advances s.state (Action.sessionOf (generateAll client.recording classNames s)).state opened
      (returned (generateAll client.recording classNames s)) := by
  induction classNames generalizing s with
  | nil => exact ⟨[], .refl _⟩
  | cons c cs ih =>
    obtain ⟨opened, hfirst⟩ := generate_advances hname c s
    cases hrun : generate client.recording c s with
    | error e s' =>
      rw [hrun] at hfirst
      rw [generateAll_stopped hrun]
      exact ⟨opened, hfirst⟩
    | ok modules s' =>
      rw [hrun] at hfirst
      obtain ⟨opened', hrest⟩ := ih s'
      cases hmore : generateAll client.recording cs s' with
      | error e s'' =>
        rw [hmore] at hrest
        rw [generateAll_error hrun hmore]
        exact ⟨_, (hfirst.trans hrest).failed⟩
      | ok more s'' =>
        rw [hmore] at hrest
        rw [generateAll_ok hrun hmore]
        exact ⟨_, hfirst.trans hrest⟩

lemma perform_enter (client : Client σ) (className : String) (s : Session (Traversal σ)) :
    (Call.enter className).perform client s =
      .ok [] { s with state := { s.state with context := (s.state.context.enter className).2 } } := rfl

lemma mem_visited_enter {className d : String} {c : Context} :
    d ∈ (c.enter className).2.visited ↔ d = className ∨ d ∈ c.visited := by
  by_cases hc : className ∈ c.visited
  · simp only [Context.enter, hc, if_true, iff_or_self]
    rintro rfl
    exact hc
  · simp [Context.enter, hc]

/-- What a single call adds. -/
theorem Call.advances (hname : client.IsFaithful) (call : Call) (s : Session (Traversal (σ × List String))) :
    ∃ opened, Advances s.state (Action.sessionOf (call.perform client.recording s)).state opened
      (returned (call.perform client.recording s)) := by
  cases call with
  | generate className => exact generate_advances hname className s
  | generateAll classNames => exact generateAll_advances hname classNames s
  | enter className =>
    rw [perform_enter]
    exact ⟨[], by simp [Action.sessionOf], by simp, by simp, by simp, fun c hc => mem_visited_enter.2 (.inr hc),
      by simp [returned], by simp [returned]⟩

/-- What a whole history of calls adds. -/
theorem history_advances (hname : client.IsFaithful) (calls : List Call) (s : Session (Traversal (σ × List String))) :
    ∃ opened, Advances s.state (history client.recording calls s).2.state opened
      (history client.recording calls s).1.flatten := by
  induction calls generalizing s with
  | nil => exact ⟨[], .refl _⟩
  | cons call calls ih =>
    obtain ⟨opened, hfirst⟩ := call.advances hname s
    obtain ⟨opened', hlater⟩ := ih (Action.sessionOf (call.perform client.recording s))
    exact ⟨opened ++ opened', hfirst.trans hlater⟩

lemma mem_visited_of_enter (hname : client.IsFaithful) {className : String} {calls : List Call}
    {s : Session (Traversal (σ × List String))} (h : .enter className ∈ calls) :
    className ∈ (history client.recording calls s).2.state.context.visited := by
  induction calls generalizing s with
  | nil => cases h
  | cons call calls ih =>
    rcases List.mem_cons.1 h with rfl | h
    · obtain ⟨opened, hlater⟩ := history_advances hname calls
        (Action.sessionOf ((Call.enter className).perform client.recording s))
      exact hlater.grows (mem_visited_enter.2 (.inl rfl))
    · exact ih h

end Calls

/-! ## Recording leaves everything else as it is -/

section Mirror

variable {client : Client σ} {s : Session (Traversal (σ × List String))} {t : Session (Traversal σ)}

/-- Apart from what was recorded, the two sessions are the same. -/
structure Mirrors (s : Session (Traversal (σ × List String))) (t : Session (Traversal σ)) : Prop where
  client : t.state.client = s.state.client.1
  visited : ∀ c, c ∈ t.state.context.visited ↔ c ∈ s.state.context.visited
  pending : t.state.context.pending = s.state.context.pending
  journal : t.journal = s.journal

lemma generate_mirrors (h : Mirrors s t) (client : Client σ) (className : String) :
    ResultsAlike Mirrors (generate client.recording className s) (generate client className t) := by
  have halike := recording_alike client t.state.context.pending
  nth_rewrite 1 [h.pending] at halike
  have hends := halike.generateFrom h.visited (s := ⟨s.state.client, s.journal⟩) (t := ⟨t.state.client, t.journal⟩)
    ⟨h.client, h.journal⟩ className
  unfold generate
  dsimp only
  generalize generateFrom client.recording className s.state.context ⟨s.state.client, s.journal⟩ = o at hends ⊢
  generalize generateFrom client className t.state.context ⟨t.state.client, t.journal⟩ = o' at hends ⊢
  obtain ⟨hclient, hjournal⟩ := hends.session
  have hpending : o'.context.pending = o.context.pending := by
    obtain ⟨frames, hframes, hframes'⟩ := hends.pending
    rw [hframes, hframes', h.pending]
  have hresult := hends.result
  cases ho : o.result with
  | error e =>
    rw [ho] at hresult
    simp only [hresult]
    exact .error ⟨hclient, hends.visited, hpending, hjournal⟩
  | ok modules =>
    rw [ho] at hresult
    simp only [hresult, h.visited, hjournal]
    exact .ok ⟨hclient, hends.visited, hpending, rfl⟩

lemma generateAll_mirrors (h : Mirrors s t) (client : Client σ) (classNames : List String) :
    ResultsAlike Mirrors (generateAll client.recording classNames s) (generateAll client classNames t) := by
  induction classNames generalizing s t with
  | nil => exact .ok h
  | cons c cs ih =>
    have hfirst := generate_mirrors h client c
    generalize hrun : generate client.recording c s = r at hfirst
    generalize hrun' : generate client c t = r' at hfirst
    cases hfirst with
    | error hnext =>
      rw [generateAll_stopped hrun, generateAll_stopped hrun']
      exact .error hnext
    | @ok modules s' t' hnext =>
      have hrest := ih hnext
      generalize hmore : generateAll client.recording cs s' = q at hrest
      generalize hmore' : generateAll client cs t' = q' at hrest
      cases hrest with
      | error hlast =>
        rw [generateAll_error hrun hmore, generateAll_error hrun' hmore']
        exact .error hlast
      | ok hlast =>
        rw [generateAll_ok hrun hmore, generateAll_ok hrun' hmore']
        exact .ok hlast

lemma perform_mirrors (h : Mirrors s t) (client : Client σ) (call : Call) :
    ResultsAlike Mirrors (call.perform client.recording s) (call.perform client t) := by
  cases call with
  | generate className => exact generate_mirrors h client className
  | generateAll classNames => exact generateAll_mirrors h client classNames
  | enter className =>
    rw [perform_enter, perform_enter]
    refine .ok ⟨h.client, fun c => ?_, ?_, h.journal⟩
    · rw [mem_visited_enter, mem_visited_enter, h.visited]
    · have hpending (c : Context) : (c.enter className).2.pending = c.pending := by
        unfold Context.enter
        split <;> rfl
      simp only [hpending, h.pending]

lemma returned_mirrors (h : Mirrors s t) (client : Client σ) (call : Call) :
    returned (call.perform client t) = returned (call.perform client.recording s) ∧
      Mirrors (Action.sessionOf (call.perform client.recording s)) (Action.sessionOf (call.perform client t)) := by
  have halike := perform_mirrors h client call
  generalize call.perform client.recording s = r at halike ⊢
  generalize call.perform client t = r' at halike ⊢
  cases halike with
  | ok hnext => exact ⟨rfl, hnext⟩
  | error hnext => exact ⟨rfl, hnext⟩

lemma history_mirrors (h : Mirrors s t) (client : Client σ) (calls : List Call) :
    (history client calls t).1 = (history client.recording calls s).1 ∧
      Mirrors (history client.recording calls s).2 (history client calls t).2 := by
  induction calls generalizing s t with
  | nil => exact ⟨rfl, h⟩
  | cons call calls ih =>
    obtain ⟨hmodules, hnext⟩ := returned_mirrors h client call
    obtain ⟨hlater, hlast⟩ := ih hnext
    exact ⟨by simp only [history, hmodules, hlater], hlast⟩

end Mirror

/-- In any sequence of calls on a shared context, whatever each of them comes to, no class is asked for twice and no two
modules have the same name. A returned module is of a class that was neither visited at first nor marked as visited
before nor opened by an earlier call, and no class ceases to be visited. -/
theorem history_at_most_once {client : Client σ} (hname : client.IsFaithful) (calls : List Call)
    (s : Session (Traversal σ)) :
    (lookups client calls s).Nodup ∧
    ((history client calls s).1.flatten.map (·.name)).Nodup ∧
    (∀ before call after, calls = before ++ call :: after →
      ∀ m ∈ returned (call.perform client (history client before s).2),
        m.name ∉ s.state.context.visited ∧ .enter m.name ∉ before ∧
          m.name ∉ (history client before s).2.state.context.visited) ∧
    ∀ before after, calls = before ++ after →
      (history client before s).2.state.context.visited ⊆ (history client calls s).2.state.context.visited := by
  -- The recording client goes through the same history, and there each question is at hand.
  have hstart : Mirrors ⟨⟨(s.state.client, []), s.state.context⟩, s.journal⟩ s := ⟨rfl, fun _ => .rfl, rfl, rfl⟩
  refine ⟨?_, ?_, ?_, ?_⟩
  · obtain ⟨opened, hall⟩ := history_advances hname calls ⟨⟨(s.state.client, []), s.state.context⟩, s.journal⟩
    rw [lookups, hall.asked, List.nil_append]
    exact hall.nodup
  · rw [(history_mirrors hstart client calls).1]
    obtain ⟨opened, hall⟩ := history_advances hname calls ⟨⟨(s.state.client, []), s.state.context⟩, s.journal⟩
    exact hall.once
  · rintro before call after - m hm
    obtain ⟨-, hbefore⟩ := history_mirrors hstart client before
    rw [(returned_mirrors hbefore client call).1] at hm
    obtain ⟨opened, hall⟩ := history_advances hname before ⟨⟨(s.state.client, []), s.state.context⟩, s.journal⟩
    obtain ⟨opened', hcall⟩ := call.advances hname
      (history client.recording before ⟨⟨(s.state.client, []), s.state.context⟩, s.journal⟩).2
    have hfresh := hcall.fresh m.name (hcall.named (List.mem_map_of_mem hm))
    exact ⟨fun hin => hfresh (hall.grows hin), fun hin => hfresh (mem_visited_of_enter hname hin),
      fun hin => hfresh ((hbefore.visited m.name).1 hin)⟩
  · rintro before after rfl c hc
    rw [history_append]
    obtain ⟨-, hbefore⟩ := history_mirrors hstart client before
    obtain ⟨-, hafter⟩ := history_mirrors hbefore client after
    obtain ⟨opened, hall⟩ := history_advances hname after
      (history client.recording before ⟨⟨(s.state.client, []), s.state.context⟩, s.journal⟩).2
    exact (hafter.visited c).2 (hall.grows ((hbefore.visited c).1 hc))

lemma isFaithful_ofAnswers {answer : String → Except LoadError Java.ClassInfo} (h : Faithful answer)
    (known : List String) : (Client.ofAnswers (σ := σ) known answer).IsFaithful := by
  intro className s info s' hload
  cases ha : answer className with
  | error e =>
    simp only [Client.ofAnswers, ha] at hload
    cases hload
  | ok info' =>
    simp only [Client.ofAnswers, ha] at hload
    cases hload
    exact h className info ha

/-- A call that fails on `r.C` leaves `r.Root` and `r.A` behind, so only `r.B` is left to later calls. -/
theorem history_at_most_once_denied :
    (Client.ofTable (σ := Unit) { ClassTable.diamond with denied := ["r.C"] }).IsFaithful ∧
    ∃ calls, calls = [.generate "r.Root", .enter "r.D", .generateAll ["r.C", "r.B"], .generate "r.B"] ∧
      (lookups (Client.ofTable { ClassTable.diamond with denied := ["r.C"] }) calls ⟨⟨(), {}⟩, #[]⟩).Nodup ∧
      lookups (Client.ofTable { ClassTable.diamond with denied := ["r.C"] }) calls ⟨⟨(), {}⟩, #[]⟩ =
        ["r.Root", "r.A", "r.C", "r.B"] ∧
      (history (Client.ofTable { ClassTable.diamond with denied := ["r.C"] }) calls
        ⟨⟨(), {}⟩, #[]⟩).1.flatten.map (·.name) = ["r.B"] := by
  have hfaithful : Faithful { ClassTable.diamond with denied := ["r.C"] }.answer :=
    ClassTable.faithful_answer (by decide)
  have hclient : (Client.ofTable (σ := Unit) { ClassTable.diamond with denied := ["r.C"] }).IsFaithful :=
    isFaithful_ofAnswers hfaithful _
  have honce := history_at_most_once hclient
    [.generate "r.Root", .enter "r.D", .generateAll ["r.C", "r.B"], .generate "r.B"] ⟨⟨(), {}⟩, #[]⟩
  exact ⟨hclient, _, rfl, honce.1, by decide +kernel, by decide +kernel⟩

end Traversal

end Typings
