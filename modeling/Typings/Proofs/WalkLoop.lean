import Typings.Proofs.Actions
import Typings.Proofs.Recursion

/-!
# The loop of a walk

A walk keeps a stack of frames and goes on turn by turn: the innermost frame drops a class that was visited, opens one
that was not, or is finished. This file shows that the loop comes to the end that the recursive account gives it, with
the same modules or failure, visited classes, reports and questions, above any frames of earlier walks.
-/

namespace Typings

namespace Conversion.Converted

@[simp] lemma filterMap_reported_events (c : Converted) : c.events.filterMap Event.reportedClass? = [] := by
  cases h : c.info.isAbstract <;> simp [events, h, Event.reportedClass?]

@[simp] lemma filterMap_asked_events (c : Converted) : c.events.filterMap Event.askedClass? = [] := by
  cases h : c.info.isAbstract <;> simp [events, h, Event.askedClass?]

end Conversion.Converted

namespace Traversal

variable {σ : Type} {known : List String} {answer : String → Except LoadError Java.ClassInfo}

/-! ## Opening a class -/

section Opening

variable {visited pending : List String} {className : String} {s : Session σ}

lemma load_error {e : LoadError} (ha : answer className = .error e) :
    Action.withError GenerationError.load ((Client.ofAnswers known answer).load className)
      { s with journal := s.journal.push (.opened className pending) } = .error (.load e) (s.asking pending className) := by
  simp only [Client.ofAnswers, ha]
  rfl

lemma load_ok {info : Java.ClassInfo} (ha : answer className = .ok info) :
    Action.withError GenerationError.load ((Client.ofAnswers known answer).load className)
      { s with journal := s.journal.push (.opened className pending) } = .ok info (s.asking pending className) := by
  simp only [Client.ofAnswers, ha]
  rfl

/-- Opening a class reports it, asks for it once, and fails as the conversion of the answer does. -/
lemma openClass_error {e : GenerationError} (h : convertAnswer answer visited className = .error e) :
    openClass (Client.ofAnswers known answer) visited pending className s = .error e (s.asking pending className) := by
  cases ha : answer className with
  | error cause =>
    simp only [convertAnswer, ha, Except.error.injEq] at h
    subst h
    simp only [openClass, bind, EStateM.bind, Action.report_eq, load_error ha]
  | ok info =>
    cases hc : Conversion.convertClass info visited with
    | ok c => simp [convertAnswer, ha, hc, Except.mapError] at h
    | error cause =>
      simp only [convertAnswer, ha, hc, Except.mapError, Except.error.injEq] at h
      subst h
      simp only [openClass, bind, EStateM.bind, Action.report_eq, load_ok ha, hc]
      rfl

lemma openClass_ok {c : Conversion.Converted} (h : convertAnswer answer visited className = .ok c) :
    openClass (Client.ofAnswers known answer) visited pending className s =
      .ok ⟨moduleOf c, c.references.unresolved⟩ ((s.asking pending className).noting c.events) := by
  cases ha : answer className with
  | error cause => simp [convertAnswer, ha] at h
  | ok info =>
    cases hc : Conversion.convertClass info visited with
    | error cause => simp [convertAnswer, ha, hc, Except.mapError] at h
    | ok c' =>
      simp only [convertAnswer, ha, hc, Except.mapError, Except.ok.injEq] at h
      subst h
      simp only [openClass, bind, EStateM.bind, Action.report_eq, load_ok ha, hc, Action.forM_report]
      rfl

lemma mem_known_of_openClass (hknown : ∀ c info, answer c = .ok info → c ∈ known) {s' : Session σ} {frame : Frame}
    (h : openClass (Client.ofAnswers known answer) visited pending className s = .ok frame s') : className ∈ known := by
  cases ha : answer className with
  | error e =>
    have herror : convertAnswer answer visited className = .error (.load e) := by simp only [convertAnswer, ha]
    rw [openClass_error herror] at h
    cases h
  | ok info => exact hknown className info ha

end Opening

/-! ## The loop, turn by turn -/

/-- A moment of a walk: the classes visited, the frames of this walk, and the modules that are finished. -/
structure Moment (σ : Type) where
  visited : List String
  frames : List Frame
  finished : List Module
  session : Session σ

/-- `Ends client below moment o`: going on from the moment, above the frames `below`, the loop comes to `o`. Unlike
`walk` it does not look at which classes the client knows. -/
inductive Ends (client : Client σ) (below : List Frame) : Moment σ → Outcome σ → Prop
  | done {visited finished s} : Ends client below ⟨visited, [], finished, s⟩ ⟨.ok finished, ⟨visited, below⟩, s⟩
  | drop {visited m className imports fs finished s o} :
    className ∈ visited → Ends client below ⟨visited, ⟨m, imports⟩ :: fs, finished, s⟩ o →
    Ends client below ⟨visited, ⟨m, className :: imports⟩ :: fs, finished, s⟩ o
  | finish {visited m fs finished s o} :
    Ends client below ⟨visited, fs, finished ++ [m], s⟩ o →
    Ends client below ⟨visited, ⟨m, []⟩ :: fs, finished, s⟩ o
  | enter {visited m className imports fs finished s frame s' o} :
    className ∉ visited →
    openClass client (className :: visited) (pendingImports (⟨m, imports⟩ :: fs ++ below)) className s = .ok frame s' →
    Ends client below ⟨className :: visited, frame :: ⟨m, imports⟩ :: fs, finished, s'⟩ o →
    Ends client below ⟨visited, ⟨m, className :: imports⟩ :: fs, finished, s⟩ o
  | fail {visited m className imports fs finished s e s'} :
    className ∉ visited →
    openClass client (className :: visited) (pendingImports (⟨m, imports⟩ :: fs ++ below)) className s = .error e s' →
    Ends client below ⟨visited, ⟨m, className :: imports⟩ :: fs, finished, s⟩
      ⟨.error e, ⟨className :: visited, ⟨m, imports⟩ :: fs ++ below⟩, s'⟩

/-- The end of the loop that generates the modules of a class. -/
inductive GenerationEnds (client : Client σ) (className : String) (c : Context) (s : Session σ) : Outcome σ → Prop
  | seen : className ∈ c.visited → GenerationEnds client className c s ⟨.ok [], c, s⟩
  | failed {e s'} :
    className ∉ c.visited → openClass client (className :: c.visited) (pendingImports c.pending) className s = .error e s' →
    GenerationEnds client className c s ⟨.error e, ⟨className :: c.visited, c.pending⟩, s'⟩
  | opened {frame s' o} :
    className ∉ c.visited → openClass client (className :: c.visited) (pendingImports c.pending) className s = .ok frame s' →
    Ends client c.pending ⟨className :: c.visited, [frame], [], s'⟩ o → GenerationEnds client className c s o

variable {client : Client σ} {below : List Frame}

theorem Ends.unique {moment : Moment σ} {o o' : Outcome σ} (h : Ends client below moment o)
    (h' : Ends client below moment o') : o = o' := by
  induction h with
  | done => cases h'; rfl
  | drop hc _ ih =>
    cases h' with
    | drop _ h' => exact ih h'
    | enter hc' => exact absurd hc hc'
    | fail hc' => exact absurd hc hc'
  | finish _ ih =>
    cases h' with
    | finish h' => exact ih h'
  | enter hc hopen _ ih =>
    cases h' with
    | drop hc' => exact absurd hc' hc
    | enter _ hopen' h' =>
      rw [hopen] at hopen'
      cases hopen'
      exact ih h'
    | fail _ hopen' =>
      rw [hopen] at hopen'
      cases hopen'
  | fail hc hopen =>
    cases h' with
    | drop hc' => exact absurd hc' hc
    | enter _ hopen' =>
      rw [hopen] at hopen'
      cases hopen'
    | fail _ hopen' =>
      rw [hopen] at hopen'
      cases hopen'
      rfl

lemma Ends.dropWhile {visited imports : List String} {m : Module} {fs : List Frame} {finished : List Module}
    {s : Session σ} {o : Outcome σ}
    (h : Ends client below ⟨visited, ⟨m, imports.dropWhile (· ∈ visited)⟩ :: fs, finished, s⟩ o) :
    Ends client below ⟨visited, ⟨m, imports⟩ :: fs, finished, s⟩ o := by
  induction imports with
  | nil => exact h
  | cons c imports ih =>
    by_cases hc : c ∈ visited
    · rw [List.dropWhile_cons_of_pos (by simpa using hc)] at h
      exact .drop hc (ih h)
    · rwa [List.dropWhile_cons_of_neg (by simpa using hc)] at h

/-- A settled stack with the class that is tried next put back into the frame that waits for it. -/
def Settled.waiting (t : Settled) : List Frame :=
  match t.next?, t.frames with
  | some next, f :: fs => { f with imports := next :: f.imports } :: fs
  | _, _ => []

lemma Ends.of_settle {visited : List String} {frames : List Frame} {finished : List Module} {s : Session σ}
    {o : Outcome σ}
    (h : Ends client below
      ⟨visited, (settle visited frames).waiting, finished ++ (settle visited frames).finished, s⟩ o) :
    Ends client below ⟨visited, frames, finished, s⟩ o := by
  induction frames generalizing finished with
  | nil => simpa [settle, Settled.waiting] using h
  | cons f fs ih =>
    apply Ends.dropWhile
    cases hd : f.imports.dropWhile (· ∈ visited) with
    | nil =>
      simp only [settle, hd] at h
      apply Ends.finish
      apply ih
      rw [List.append_assoc]
      exact h
    | cons next imports => simpa [settle, hd, Settled.waiting] using h

lemma exists_frame_of_settle {visited : List String} {frames : List Frame} {next : String}
    (h : (settle visited frames).next? = some next) : ∃ f fs, (settle visited frames).frames = f :: fs := by
  induction frames with
  | nil => simp [settle] at h
  | cons f fs ih =>
    cases hd : f.imports.dropWhile (· ∈ visited) with
    | nil =>
      simp only [settle, hd] at h ⊢
      exact ih h
    | cons n imports => exact ⟨{ f with imports := imports }, fs, by simp only [settle, hd]⟩

/-- The outcome of a walk that had finished modules before. -/
def Outcome.after (finished : List Module) (o : Outcome σ) : Outcome σ :=
  ⟨o.result.map (finished ++ ·), o.context, o.session⟩

@[simp] lemma Outcome.after_nil (o : Outcome σ) : o.after [] = o := by
  obtain ⟨result, _, _⟩ := o
  cases result <;> rfl

/-- The walk comes to the end of the loop, if only known classes can be opened. -/
theorem ends_walk (below : List Frame) (hknown : ∀ {visited pending className s frame s'},
      openClass client visited pending className s = .ok frame s' → className ∈ client.known)
    (visited : List String) (frames : List Frame) (finished : List Module) (s : Session σ) :
    Ends client below ⟨visited, frames, finished, s⟩ ((walk client below visited frames s).after finished) := by
  induction h : unvisited client.known visited using Nat.strongRecOn generalizing visited frames finished s with
  | _ n ih =>
    subst h
    -- `walk` settles the stack in one go where the loop takes a turn for each class and each finished frame.
    apply Ends.of_settle
    rw [walk]
    split
    · rename_i hnone
      simp only [Settled.waiting, hnone, Outcome.after, Except.map]
      exact .done
    · rename_i next hnext
      have hnew := not_mem_of_settle_next hnext
      obtain ⟨f, fs, hframes⟩ := exists_frame_of_settle hnext
      simp only [Settled.waiting, hnext, hframes]
      cases hopen : openClass client (next :: visited) (pendingImports (f :: fs ++ below)) next s with
      | error e s' => exact .fail hnew hopen
      | ok frame s' =>
        have hin := hknown hopen
        have hrest := ih _ (unvisited_cons_lt hin hnew) (next :: visited) (frame :: f :: fs)
          (finished ++ (settle visited frames).finished) s' rfl
        refine .enter hnew hopen ?_
        simp only [hin, dite_true]
        convert hrest using 1
        cases hresult : (walk client below (next :: visited) (frame :: f :: fs) s').result <;>
          simp [Outcome.after, Except.map, hresult]

/-! ## The loop and the recursive account -/

/-- The loop with a frame on top runs through the visits to the classes that the frame waits for. When they succeed, the
frame is finished and the loop goes on below it. -/
def Runs (client : Client σ) (below : List Frame) (visited classNames : List String) (o : VisitOutcome) : Prop :=
  ∀ (m : Module) (fs : List Frame) (finished : List Module) (s : Session σ),
    ∃ s' : Session σ, s'.reported = s.reported ++ o.reported ∧ s'.asked = s.asked ++ o.asked ∧
      match o.result with
      | .ok modules => ∀ e, Ends client below ⟨o.visited, fs, finished ++ modules ++ [m], s'⟩ e →
        Ends client below ⟨visited, ⟨m, classNames⟩ :: fs, finished, s⟩ e
      | .error cause => ∃ pending,
        Ends client below ⟨visited, ⟨m, classNames⟩ :: fs, finished, s⟩ ⟨.error cause, ⟨o.visited, pending⟩, s'⟩

theorem VisitEach.runs {visited classNames : List String} {o : VisitOutcome}
    (h : VisitEach answer visited classNames o) (known : List String) (below : List Frame) :
    Runs (σ := σ) (Client.ofAnswers known answer) below visited classNames o := by
  refine VisitEach.induct (motive := Runs (Client.ofAnswers known answer) below)
    ?nil ?seen ?failed ?stopped ?converted h
  case nil =>
    intro visited m fs finished s
    refine ⟨s, by simp, by simp, fun e he => .finish ?_⟩
    simpa using he
  case seen =>
    intro visited className classNames o hc _ ih m fs finished s
    obtain ⟨s', hreported, hasked, hend⟩ := ih m fs finished s
    refine ⟨s', hreported, hasked, ?_⟩
    cases hresult : o.result with
    | ok modules =>
      rw [hresult] at hend
      exact fun e he => .drop hc (hend e he)
    | error cause =>
      rw [hresult] at hend
      obtain ⟨pending, hend⟩ := hend
      exact ⟨pending, .drop hc hend⟩
  case failed =>
    intro visited className classNames e hc he m fs finished s
    exact ⟨_, by simp, by simp, _, .fail hc (openClass_error he)⟩
  case stopped =>
    intro visited className classNames c e o hc hok _ hresult ih m fs finished s
    -- The frame that waits for the class lies below that of the class itself.
    obtain ⟨s', hreported, hasked, hend⟩ := ih (moduleOf c) (⟨m, classNames⟩ :: fs) finished
      ((s.asking (pendingImports (⟨m, classNames⟩ :: fs ++ below)) className).noting c.events)
    rw [hresult] at hend
    obtain ⟨pending, hend⟩ := hend
    exact ⟨s', by simpa using hreported, by simpa using hasked, pending, .enter hc (openClass_ok hok) hend⟩
  case converted =>
    intro visited className classNames c modules o next hc hok _ hresult ih _ ihnext m fs finished s
    obtain ⟨s', hreported, hasked, hend⟩ := ih (moduleOf c) (⟨m, classNames⟩ :: fs) finished
      ((s.asking (pendingImports (⟨m, classNames⟩ :: fs ++ below)) className).noting c.events)
    rw [hresult] at hend
    obtain ⟨s'', hreported', hasked', hend'⟩ := ihnext m fs (finished ++ modules ++ [moduleOf c]) s'
    refine ⟨s'', by simp [hreported', hreported], by simp [hasked', hasked], ?_⟩
    cases hnext : next.result with
    | ok more =>
      rw [hnext] at hend'
      intro e he
      refine .enter hc (openClass_ok hok) (hend e (hend' e ?_))
      simpa [Except.map] using he
    | error cause =>
      rw [hnext] at hend'
      obtain ⟨pending, hend'⟩ := hend'
      exact ⟨pending, .enter hc (openClass_ok hok) (hend _ hend')⟩

/-- A generation leaves behind what the visit to its class comes to. -/
structure Follows (o : VisitOutcome) (s : Session σ) (e : Outcome σ) : Prop where
  result : e.result = o.result
  visited : e.context.visited = o.visited
  reported : e.session.reported = s.reported ++ o.reported
  asked : e.session.asked = s.asked ++ o.asked

theorem Visit.generationEnds {className : String} {c : Context} {o : VisitOutcome}
    (h : Visit answer c.visited className o) (known : List String) (s : Session σ) :
    ∃ e, GenerationEnds (Client.ofAnswers known answer) className c s e ∧ Follows o s e := by
  cases h with
  | seen hc => exact ⟨_, .seen hc, ⟨rfl, rfl, by simp, by simp⟩⟩
  | failed hc he => exact ⟨_, .failed hc (openClass_error he), ⟨rfl, rfl, by simp, by simp⟩⟩
  | @converted _ _ conv o hc hok hbelow =>
    obtain ⟨s', hreported, hasked, hend⟩ := hbelow.runs known c.pending (moduleOf conv) [] []
      ((s.asking (pendingImports c.pending) className).noting conv.events)
    cases hresult : o.result with
    | ok modules =>
      rw [hresult] at hend
      refine ⟨_, .opened hc (openClass_ok hok) (hend _ .done), ⟨?_, rfl, ?_, ?_⟩⟩
      · simp [Except.map]
      · simpa using hreported
      · simpa using hasked
    | error cause =>
      rw [hresult] at hend
      obtain ⟨pending, hend⟩ := hend
      refine ⟨_, .opened hc (openClass_ok hok) hend, ⟨?_, rfl, ?_, ?_⟩⟩
      · simp [Except.map]
      · simpa using hreported
      · simpa using hasked

theorem GenerationEnds.unique {className : String} {c : Context} {s : Session σ} {e e' : Outcome σ}
    (h : GenerationEnds client className c s e) (h' : GenerationEnds client className c s e') : e = e' := by
  cases h with
  | seen hc =>
    cases h' with
    | seen => rfl
    | failed hc' => exact absurd hc hc'
    | opened hc' => exact absurd hc hc'
  | failed hc hopen =>
    cases h' with
    | seen hc' => exact absurd hc' hc
    | failed _ hopen' =>
      rw [hopen] at hopen'
      cases hopen'
      rfl
    | opened _ hopen' =>
      rw [hopen] at hopen'
      cases hopen'
  | opened hc hopen hend =>
    cases h' with
    | seen hc' => exact absurd hc' hc
    | failed _ hopen' =>
      rw [hopen] at hopen'
      cases hopen'
    | opened _ hopen' hend' =>
      rw [hopen] at hopen'
      cases hopen'
      exact hend.unique hend'

theorem generationEnds_generateFrom (hknown : ∀ c info, answer c = .ok info → c ∈ known) (className : String)
    (c : Context) (s : Session σ) :
    GenerationEnds (Client.ofAnswers known answer) className c s
      (generateFrom (Client.ofAnswers known answer) className c s) := by
  by_cases hc : className ∈ c.visited
  · rw [generateFrom, if_pos hc]
    exact .seen hc
  · rw [generateFrom, if_neg hc]
    cases hopen : openClass (Client.ofAnswers known answer) (className :: c.visited) (pendingImports c.pending)
        className s with
    | error e s' =>
      simp only [hopen]
      exact .failed hc hopen
    | ok frame s' =>
      simp only [hopen]
      have hopens : ∀ {visited pending className} {s : Session σ} {frame s'},
          openClass (Client.ofAnswers known answer) visited pending className s = .ok frame s' → className ∈ known :=
        fun hopen => mem_known_of_openClass hknown hopen
      have hend := ends_walk c.pending hopens (className :: c.visited) [frame] [] s'
      rw [Outcome.after_nil] at hend
      exact .opened hc hopen hend

/-- A generation comes to what the visit to its class comes to. -/
theorem generateFrom_follows (hknown : ∀ c info, answer c = .ok info → c ∈ known) {className : String} {c : Context}
    {o : VisitOutcome} (h : Visit answer c.visited className o) (s : Session σ) :
    Follows o s (generateFrom (Client.ofAnswers known answer) className c s) := by
  obtain ⟨e, hends, hfollows⟩ := h.generationEnds known s
  have heq := hends.unique (generationEnds_generateFrom hknown className c s)
  exact heq ▸ hfollows

/-- A step on a traversal comes to what a visit comes to. -/
structure Agrees (o : VisitOutcome) (s : Session (Traversal σ))
    (r : EStateM.Result GenerationError (Session (Traversal σ)) (List Module)) : Prop where
  value : Action.valueOf r = o.result
  visited : (Action.sessionOf r).state.context.visited = o.visited
  reported : (Action.sessionOf r).reported = s.reported ++ o.reported
  asked : (Action.sessionOf r).asked = s.asked ++ o.asked

lemma Agrees.eq_ok {o : VisitOutcome} {s : Session (Traversal σ)}
    {r : EStateM.Result GenerationError (Session (Traversal σ)) (List Module)} (h : Agrees o s r)
    {modules : List Module} (hresult : o.result = .ok modules) :
    ∃ s', r = .ok modules s' ∧ Agrees o s (.ok modules s') := by
  cases r with
  | ok modules' s' =>
    have hvalue : Except.ok modules' = o.result := h.value
    rw [hresult] at hvalue
    cases hvalue
    exact ⟨s', rfl, h⟩
  | error e s' =>
    have hvalue : Except.error e = o.result := h.value
    rw [hresult] at hvalue
    cases hvalue

lemma Agrees.eq_error {o : VisitOutcome} {s : Session (Traversal σ)}
    {r : EStateM.Result GenerationError (Session (Traversal σ)) (List Module)} (h : Agrees o s r)
    {e : GenerationError} (hresult : o.result = .error e) : ∃ s', r = .error e s' ∧ Agrees o s (.error e s') := by
  cases r with
  | ok modules s' =>
    have hvalue : Except.ok modules = o.result := h.value
    rw [hresult] at hvalue
    cases hvalue
  | error e' s' =>
    have hvalue : Except.error e' = o.result := h.value
    rw [hresult] at hvalue
    cases hvalue
    exact ⟨s', rfl, h⟩

lemma Agrees.succeeds_iff {o : VisitOutcome} {s : Session (Traversal σ)}
    {r : EStateM.Result GenerationError (Session (Traversal σ)) (List Module)} (h : Agrees o s r) :
    (∃ modules s', r = .ok modules s') ↔ ∃ modules, o.result = .ok modules := by
  constructor
  · rintro ⟨modules, s', rfl⟩
    exact ⟨modules, h.value.symm⟩
  · rintro ⟨modules, hresult⟩
    obtain ⟨s', hs', _⟩ := h.eq_ok hresult
    exact ⟨modules, s', hs'⟩

lemma generate_agrees (hknown : ∀ c info, answer c = .ok info → c ∈ known) {className : String} {o : VisitOutcome}
    {s : Session (Traversal σ)} (h : Visit answer s.state.context.visited className o) :
    Agrees o s (generate (Client.ofAnswers known answer) className s) := by
  have hfollows := generateFrom_follows hknown h { state := s.state.client, journal := s.journal }
  unfold generate
  dsimp only
  generalize generateFrom (Client.ofAnswers known answer) className s.state.context
    { state := s.state.client, journal := s.journal } = e at hfollows ⊢
  cases hresult : e.result with
  | error cause => exact ⟨hresult.symm.trans hfollows.result, hfollows.visited, hfollows.reported, hfollows.asked⟩
  | ok modules =>
    refine ⟨hresult.symm.trans hfollows.result, hfollows.visited, Eq.trans ?_ hfollows.reported,
      Eq.trans ?_ hfollows.asked⟩
    · by_cases hc : className ∈ s.state.context.visited <;>
        simp [Action.sessionOf, Session.reported, hc, Event.reportedClass?]
    · by_cases hc : className ∈ s.state.context.visited <;>
        simp [Action.sessionOf, Session.asked, hc, Event.askedClass?]

section Several

variable {client : Client σ} {c : String} {cs : List String} {s s' s'' : Session (Traversal σ)}
  {modules more : List Module} {e : GenerationError}

lemma generateAll_stopped (hfirst : generate client c s = .error e s') :
    generateAll client (c :: cs) s = .error e s' := by
  unfold generateAll
  simp only [bind, EStateM.bind, mapM_cons_stopped hfirst]

lemma generateAll_ok (hfirst : generate client c s = .ok modules s') (hrest : generateAll client cs s' = .ok more s'') :
    generateAll client (c :: cs) s = .ok (modules ++ more) s'' := by
  unfold generateAll at hrest ⊢
  cases hmap : cs.mapM (generate client) s' with
  | error e t => simp [bind, EStateM.bind, hmap] at hrest
  | ok lists t =>
    simp only [bind, EStateM.bind, hmap] at hrest
    cases hrest
    simp only [bind, EStateM.bind, mapM_cons_ok hfirst hmap]
    rfl

lemma generateAll_error (hfirst : generate client c s = .ok modules s') (hrest : generateAll client cs s' = .error e s'') :
    generateAll client (c :: cs) s = .error e s'' := by
  unfold generateAll at hrest ⊢
  cases hmap : cs.mapM (generate client) s' with
  | ok lists t =>
    simp only [bind, EStateM.bind, hmap] at hrest
    cases hrest
  | error cause t =>
    simp only [bind, EStateM.bind, hmap, EStateM.Result.error.injEq] at hrest
    obtain ⟨rfl, rfl⟩ := hrest
    simp only [bind, EStateM.bind, mapM_cons_error hfirst hmap]

end Several

lemma generateAll_agrees (hknown : ∀ c info, answer c = .ok info → c ∈ known) {classNames : List String}
    {o : VisitOutcome} {s : Session (Traversal σ)} (h : VisitEach answer s.state.context.visited classNames o) :
    Agrees o s (generateAll (Client.ofAnswers known answer) classNames s) := by
  induction classNames generalizing o s with
  | nil =>
    cases h
    exact ⟨rfl, rfl, by simp [Action.sessionOf, generateAll]; rfl, by simp [Action.sessionOf, generateAll]; rfl⟩
  | cons c cs ih =>
    cases h with
    | stopped hfirst he =>
      obtain ⟨s', hs', hagrees⟩ := (generate_agrees hknown hfirst).eq_error he
      rw [generateAll_stopped hs']
      exact hagrees
    | @cons _ _ _ o modules next hfirst hok hnext =>
      obtain ⟨s', hs', hagrees⟩ := (generate_agrees hknown hfirst).eq_ok hok
      have hrest := ih (s := s') (o := next) (hagrees.visited ▸ hnext)
      have hreported := hrest.reported.trans (congrArg (· ++ next.reported) hagrees.reported)
      have hasked := hrest.asked.trans (congrArg (· ++ next.asked) hagrees.asked)
      rw [List.append_assoc] at hreported hasked
      cases hresult : next.result with
      | error e =>
        obtain ⟨s'', hs'', _⟩ := hrest.eq_error hresult
        rw [hs''] at hrest hreported hasked
        rw [generateAll_error hs' hs'']
        exact ⟨rfl, hrest.visited, hreported, hasked⟩
      | ok more =>
        obtain ⟨s'', hs'', _⟩ := hrest.eq_ok hresult
        rw [hs''] at hrest hreported hasked
        rw [generateAll_ok hs' hs'']
        exact ⟨rfl, hrest.visited, hreported, hasked⟩

/-- Generating the modules of a class comes to its one end, whatever was visited and whatever frames are waiting, and
that is the end of the recursive account: the same modules or failure, visited classes, reports and questions. -/
theorem generate_ends_as_visit (hknown : ∀ c info, answer c = .ok info → c ∈ known) (className : String)
    (s : Session (Traversal σ)) :
    (∀ e, GenerationEnds (Client.ofAnswers known answer) className s.state.context ⟨s.state.client, s.journal⟩ e ↔
      e = generateFrom (Client.ofAnswers known answer) className s.state.context ⟨s.state.client, s.journal⟩) ∧
    ∃ o, (∀ o', Visit answer s.state.context.visited className o' ↔ o' = o) ∧
      Agrees o s (generate (Client.ofAnswers known answer) className s) := by
  have hends := generationEnds_generateFrom hknown className s.state.context ⟨s.state.client, s.journal⟩
  refine ⟨fun e => ⟨fun he => he.unique hends, fun he => he ▸ hends⟩, ?_⟩
  obtain ⟨o, ho⟩ := exists_visit hknown s.state.context.visited className
  exact ⟨o, fun o' => ⟨fun ho' => ho'.unique ho, fun ho' => ho' ▸ ho⟩, generate_agrees hknown ho⟩

theorem generate_ends_as_visit_diamond :
    (∀ c info, ClassTable.diamond.answer c = .ok info → c ∈ ClassTable.diamond.classes.map (·.1)) ∧
    ∃ o, (∀ o', Visit ClassTable.diamond.answer [] "r.Root" o' ↔ o' = o) ∧
      o.reported = ["r.Root", "r.A", "r.C", "r.B"] := by
  refine ⟨ClassTable.mem_of_answer, ?_⟩
  obtain ⟨o, hvisit, hagrees⟩ :=
    (generate_ends_as_visit ClassTable.mem_of_answer "r.Root" (σ := Unit) { state := ⟨(), {}⟩ }).2
  refine ⟨o, hvisit, hagrees.reported.symm.trans ?_⟩
  decide +kernel

end Traversal

end Typings
