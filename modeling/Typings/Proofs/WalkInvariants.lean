import Typings.Proofs.WalkLoop

/-!
# Invariants of a walk

What every turn of the loop keeps holds at its end, whatever the client answers and whichever classes it knows. Two
walks whose clients open classes alike come to the same end, even if they started above different frames.
-/

namespace Typings.Traversal

variable {σ τ : Type} {client : Client σ} {below : List Frame}

/-! ## How a walk goes on -/

/-- Opening the class comes to a failure: that of the client or the conversion, or the class is not among those that
the client knows. -/
inductive OpeningFails (client : Client σ) (visited pending : List String) (className : String) (s : Session σ) :
    GenerationError → Session σ → Prop
  | failed {e s'} :
    openClass client visited pending className s = .error e s' → OpeningFails client visited pending className s e s'
  | unknown {frame s'} :
    openClass client visited pending className s = .ok frame s' → className ∉ client.known →
    OpeningFails client visited pending className s (.load (.classNotFound className)) s'

section Turns

variable {visited : List String} {frames : List Frame} {next : String} {s s' : Session σ} {frame : Frame}

lemma walk_done (hnone : (settle visited frames).next? = none) :
    walk client below visited frames s = ⟨.ok (settle visited frames).finished, ⟨visited, below⟩, s⟩ := by
  rw [walk]
  split
  · rfl
  · rename_i hnext
    rw [hnone] at hnext
    cases hnext

lemma walk_opened (hnext : (settle visited frames).next? = some next)
    (hopen : openClass client (next :: visited) (pendingImports ((settle visited frames).frames ++ below)) next s =
      .ok frame s') (hknown : next ∈ client.known) :
    walk client below visited frames s =
      (walk client below (next :: visited) (frame :: (settle visited frames).frames) s').after
        (settle visited frames).finished := by
  rw [walk]
  split
  · rename_i hnone
    rw [hnext] at hnone
    cases hnone
  · rename_i next' hnext'
    rw [hnext] at hnext'
    cases hnext'
    simp only [hopen, hknown, dite_true]
    rfl

lemma walk_fails {e : GenerationError} (hnext : (settle visited frames).next? = some next)
    (hfails : OpeningFails client (next :: visited) (pendingImports ((settle visited frames).frames ++ below)) next s
      e s') :
    walk client below visited frames s =
      ⟨.error e, ⟨next :: visited, (settle visited frames).frames ++ below⟩, s'⟩ := by
  rw [walk]
  split
  · rename_i hnone
    rw [hnext] at hnone
    cases hnone
  · rename_i next' hnext'
    rw [hnext] at hnext'
    cases hnext'
    cases hfails with
    | failed hopen => simp only [hopen]
    | unknown hopen hknown => simp only [hopen, hknown, dite_false]

end Turns

lemma opens_or_fails (client : Client σ) (visited pending : List String) (className : String) (s : Session σ) :
    (∃ frame s', openClass client visited pending className s = .ok frame s' ∧ className ∈ client.known) ∨
      ∃ e s', OpeningFails client visited pending className s e s' := by
  cases hopen : openClass client visited pending className s with
  | error e s' => exact .inr ⟨e, s', .failed hopen⟩
  | ok frame s' =>
    by_cases hknown : className ∈ client.known
    · exact .inl ⟨frame, s', rfl, hknown⟩
    · exact .inr ⟨_, s', .unknown hopen hknown⟩

/-- The induction along a walk: it is done, it goes on above a class that it opened, or a class cannot be opened. -/
theorem walk_induction (client : Client σ) (below : List Frame)
    {motive : List String → List Frame → Session σ → Prop}
    (done : ∀ visited frames s, (settle visited frames).next? = none → motive visited frames s)
    (opened : ∀ visited frames s next frame s', (settle visited frames).next? = some next →
      openClass client (next :: visited) (pendingImports ((settle visited frames).frames ++ below)) next s =
        .ok frame s' → next ∈ client.known →
      motive (next :: visited) (frame :: (settle visited frames).frames) s' → motive visited frames s)
    (fails : ∀ visited frames s next e s', (settle visited frames).next? = some next →
      OpeningFails client (next :: visited) (pendingImports ((settle visited frames).frames ++ below)) next s e s' →
      motive visited frames s)
    (visited : List String) (frames : List Frame) (s : Session σ) : motive visited frames s := by
  -- Each opened class leaves one less that is known and not visited.
  induction h : unvisited client.known visited using Nat.strongRecOn generalizing visited frames s with
  | _ n ih =>
    subst h
    cases hnext : (settle visited frames).next? with
    | none => exact done visited frames s hnext
    | some next =>
      rcases opens_or_fails client (next :: visited) (pendingImports ((settle visited frames).frames ++ below)) next s
        with ⟨frame, s', hopen, hknown⟩ | ⟨e, s', hfails⟩
      · have hlt := unvisited_cons_lt hknown (not_mem_of_settle_next hnext)
        exact opened visited frames s next frame s' hnext hopen hknown (ih _ hlt _ _ _ rfl)
      · exact fails visited frames s next e s' hnext hfails

lemma Outcome.after_after (first second : List Module) (o : Outcome σ) :
    (o.after second).after first = o.after (first ++ second) := by
  obtain ⟨result, _, _⟩ := o
  cases result <;> simp [Outcome.after, Except.map]

/-! ## The rule for invariants -/

/-- Every turn of a walk above the frames `below` keeps `inv`, and where a walk ends `inv` gives `post`. -/
structure Keeps (client : Client σ) (below : List Frame) (inv : Moment σ → Prop) (post : Outcome σ → Prop) : Prop where
  drop : ∀ {visited m className imports fs finished s}, className ∈ visited →
    inv ⟨visited, ⟨m, className :: imports⟩ :: fs, finished, s⟩ → inv ⟨visited, ⟨m, imports⟩ :: fs, finished, s⟩
  finish : ∀ {visited m fs finished s},
    inv ⟨visited, ⟨m, []⟩ :: fs, finished, s⟩ → inv ⟨visited, fs, finished ++ [m], s⟩
  enter : ∀ {visited m className imports fs finished s frame s'}, className ∉ visited →
    inv ⟨visited, ⟨m, className :: imports⟩ :: fs, finished, s⟩ →
    openClass client (className :: visited) (pendingImports (⟨m, imports⟩ :: fs ++ below)) className s = .ok frame s' →
    inv ⟨className :: visited, frame :: ⟨m, imports⟩ :: fs, finished, s'⟩
  done : ∀ {visited finished s}, inv ⟨visited, [], finished, s⟩ → post ⟨.ok finished, ⟨visited, below⟩, s⟩
  fail : ∀ {visited m className imports fs finished s e s'}, className ∉ visited →
    inv ⟨visited, ⟨m, className :: imports⟩ :: fs, finished, s⟩ →
    OpeningFails client (className :: visited) (pendingImports (⟨m, imports⟩ :: fs ++ below)) className s e s' →
    post ⟨.error e, ⟨className :: visited, ⟨m, imports⟩ :: fs ++ below⟩, s'⟩

namespace Keeps

variable {inv : Moment σ → Prop} {post : Outcome σ → Prop} {visited : List String} {frames : List Frame}
  {finished : List Module} {s : Session σ}

lemma dropWhile (h : Keeps client below inv post) {m : Module} {imports : List String}
    (hinv : inv ⟨visited, ⟨m, imports⟩ :: frames, finished, s⟩) :
    inv ⟨visited, ⟨m, imports.dropWhile (· ∈ visited)⟩ :: frames, finished, s⟩ := by
  induction imports with
  | nil => exact hinv
  | cons c imports ih =>
    by_cases hc : c ∈ visited
    · rw [List.dropWhile_cons_of_pos (by simpa using hc)]
      exact ih (h.drop hc hinv)
    · rwa [List.dropWhile_cons_of_neg (by simpa using hc)]

lemma settle (h : Keeps client below inv post) (hinv : inv ⟨visited, frames, finished, s⟩) :
    inv ⟨visited, (settle visited frames).waiting, finished ++ (settle visited frames).finished, s⟩ := by
  induction frames generalizing finished with
  | nil => simpa [Traversal.settle, Settled.waiting] using hinv
  | cons f fs ih =>
    have hdropped := h.dropWhile hinv
    cases hd : f.imports.dropWhile (· ∈ visited) with
    | nil =>
      rw [hd] at hdropped
      have hfinished := ih (h.finish hdropped)
      simp only [Traversal.settle, hd]
      rw [List.append_assoc] at hfinished
      exact hfinished
    | cons next imports =>
      rw [hd] at hdropped
      simpa [Traversal.settle, hd, Settled.waiting] using hdropped

/-- What every turn keeps holds at the end of a walk. -/
theorem walk (h : Keeps client below inv post) (visited : List String) (frames : List Frame) (s : Session σ)
    (finished : List Module) (hinv : inv ⟨visited, frames, finished, s⟩) :
    post ((walk client below visited frames s).after finished) := by
  refine walk_induction client below
    (motive := fun visited frames s => ∀ finished, inv ⟨visited, frames, finished, s⟩ →
      post ((Traversal.walk client below visited frames s).after finished))
    ?done ?opened ?fails visited frames s finished hinv
  case done =>
    intro visited frames s hnone finished hinv
    have hsettled := h.settle hinv
    simp only [Settled.waiting, hnone] at hsettled
    rw [walk_done hnone]
    exact h.done hsettled
  case opened =>
    intro visited frames s next frame s' hnext hopen hknown ih finished hinv
    have hsettled := h.settle hinv
    obtain ⟨f, fs, hframes⟩ := exists_frame_of_settle hnext
    simp only [Settled.waiting, hnext, hframes] at hsettled
    rw [walk_opened hnext hopen hknown, Outcome.after_after]
    rw [hframes] at hopen ih ⊢
    exact ih _ (h.enter (not_mem_of_settle_next hnext) hsettled hopen)
  case fails =>
    intro visited frames s next e s' hnext hfails finished hinv
    have hsettled := h.settle hinv
    obtain ⟨f, fs, hframes⟩ := exists_frame_of_settle hnext
    simp only [Settled.waiting, hnext, hframes] at hsettled
    rw [walk_fails hnext hfails]
    rw [hframes] at hfails ⊢
    exact h.fail (not_mem_of_settle_next hnext) hsettled hfails

/-- The rule for the generation of a class that was not visited. -/
theorem generateFrom {c : Context} (h : Keeps client c.pending inv post) {className : String}
    (hnew : className ∉ c.visited)
    (hopen : ∀ frame s', openClass client (className :: c.visited) (pendingImports c.pending) className s = .ok frame s' →
      inv ⟨className :: c.visited, [frame], [], s'⟩)
    (hfail : ∀ e s', openClass client (className :: c.visited) (pendingImports c.pending) className s = .error e s' →
      post ⟨.error e, ⟨className :: c.visited, c.pending⟩, s'⟩) :
    post (generateFrom client className c s) := by
  rw [Traversal.generateFrom, if_neg hnew]
  cases hroot : openClass client (className :: c.visited) (pendingImports c.pending) className s with
  | error e s' =>
    simp only [hroot]
    exact hfail e s' hroot
  | ok frame s' =>
    simp only [hroot]
    have hend := h.walk _ _ _ _ (hopen frame s' hroot)
    rwa [Outcome.after_nil] at hend

end Keeps

/-! ## Walks that go alike -/

section Alike

variable {rel : Session σ → Session τ → Prop}

/-- Two steps come to the same value or failure and leave related sessions behind. -/
inductive ResultsAlike {α : Type} (rel : Session σ → Session τ → Prop) :
    EStateM.Result GenerationError (Session σ) α → EStateM.Result GenerationError (Session τ) α → Prop
  | ok {a s t} : rel s t → ResultsAlike rel (.ok a s) (.ok a t)
  | error {e s t} : rel s t → ResultsAlike rel (.error e s) (.error e t)

lemma ResultsAlike.eq_ok {α : Type} {a : α} {s : Session σ} {r : EStateM.Result GenerationError (Session τ) α}
    (h : ResultsAlike rel (.ok a s) r) : ∃ t, r = .ok a t ∧ rel s t := by
  cases h with
  | ok hrel => exact ⟨_, rfl, hrel⟩

lemma ResultsAlike.eq_error {α : Type} {e : GenerationError} {s : Session σ}
    {r : EStateM.Result GenerationError (Session τ) α} (h : ResultsAlike rel (.error e s) r) :
    ∃ t, r = .error e t ∧ rel s t := by
  cases h with
  | error hrel => exact ⟨_, rfl, hrel⟩

/-- Two walks above the frames `below` and `below'` come to the same modules or failure, visited classes and frames of
their own, and leave related sessions behind. -/
structure Outcome.Alike (rel : Session σ → Session τ → Prop) (below below' : List Frame) (o : Outcome σ)
    (o' : Outcome τ) : Prop where
  result : o'.result = o.result
  visited : ∀ c, c ∈ o'.context.visited ↔ c ∈ o.context.visited
  pending : ∃ frames, o.context.pending = frames ++ below ∧ o'.context.pending = frames ++ below'
  session : rel o.session o'.session

/-- Two clients that know the same classes open each class alike, above the frames `below` and `below'`. -/
structure ClientsAlike (rel : Session σ → Session τ → Prop) (client : Client σ) (client' : Client τ)
    (below below' : List Frame) : Prop where
  known : client'.known = client.known
  opens : ∀ {visited visited' s t} (frames : List Frame) (className : String),
    (∀ c, c ∈ visited' ↔ c ∈ visited) → rel s t →
    ResultsAlike rel (openClass client visited (pendingImports (frames ++ below)) className s)
      (openClass client' visited' (pendingImports (frames ++ below')) className t)

lemma settle_congr {visited visited' : List String} (hsame : ∀ c, c ∈ visited' ↔ c ∈ visited) (frames : List Frame) :
    settle visited' frames = settle visited frames := by
  have hmem : (fun c => decide (c ∈ visited')) = fun c => decide (c ∈ visited) := by
    funext c
    simp only [hsame c]
  induction frames with
  | nil => rfl
  | cons f fs ih => simp only [settle, hmem, ih]

lemma mem_cons_congr {visited visited' : List String} (hsame : ∀ c, c ∈ visited' ↔ c ∈ visited) (className c : String) :
    c ∈ className :: visited' ↔ c ∈ className :: visited := by
  rw [List.mem_cons, List.mem_cons, hsame]

variable {client' : Client τ} {below' : List Frame}

theorem ClientsAlike.walk (h : ClientsAlike rel client client' below below') (visited : List String)
    (frames : List Frame) (s : Session σ) {visited' : List String} {t : Session τ}
    (hsame : ∀ c, c ∈ visited' ↔ c ∈ visited) (hrel : rel s t) :
    (walk client below visited frames s).Alike rel below below' (walk client' below' visited' frames t) := by
  refine walk_induction client below
    (motive := fun visited frames s => ∀ visited' t, (∀ c, c ∈ visited' ↔ c ∈ visited) → rel s t →
      (Traversal.walk client below visited frames s).Alike rel below below'
        (Traversal.walk client' below' visited' frames t))
    ?done ?opened ?fails visited frames s visited' t hsame hrel
  case done =>
    intro visited frames s hnone visited' t hsame hrel
    rw [walk_done hnone, walk_done (by rw [settle_congr hsame, hnone]), settle_congr hsame]
    exact ⟨rfl, hsame, ⟨[], rfl, rfl⟩, hrel⟩
  case opened =>
    intro visited frames s next frame s' hnext hopen hknown ih visited' t hsame hrel
    have halike := h.opens (settle visited frames).frames next (mem_cons_congr hsame next) hrel
    rw [hopen] at halike
    obtain ⟨t', hopen', hrel'⟩ := halike.eq_ok
    have hrest := ih _ t' (mem_cons_congr hsame next) hrel'
    have hsettle := settle_congr hsame frames
    have hnext' : (settle visited' frames).next? = some next := by rwa [hsettle]
    rw [← hsettle] at hopen'
    rw [walk_opened hnext hopen hknown, walk_opened hnext' hopen' (h.known.symm ▸ hknown), hsettle]
    exact ⟨by simp only [Outcome.after, hrest.result], hrest.visited, hrest.pending, hrest.session⟩
  case fails =>
    intro visited frames s next e s' hnext hfails visited' t hsame hrel
    have halike := h.opens (settle visited frames).frames next (mem_cons_congr hsame next) hrel
    have hsettle := settle_congr hsame frames
    obtain ⟨t', hfails', hrel'⟩ : ∃ t', OpeningFails client' (next :: visited')
        (pendingImports ((settle visited frames).frames ++ below')) next t e t' ∧ rel s' t' := by
      cases hfails with
      | failed hopen =>
        rw [hopen] at halike
        obtain ⟨t', hopen', hrel'⟩ := halike.eq_error
        exact ⟨t', .failed hopen', hrel'⟩
      | unknown hopen hknown =>
        rw [hopen] at halike
        obtain ⟨t', hopen', hrel'⟩ := halike.eq_ok
        exact ⟨t', .unknown hopen' (h.known.symm ▸ hknown), hrel'⟩
    rw [walk_fails hnext hfails, walk_fails (hsettle ▸ hnext) (hsettle.symm ▸ hfails'), hsettle]
    exact ⟨rfl, mem_cons_congr hsame next, ⟨_, rfl, rfl⟩, hrel'⟩

theorem ClientsAlike.generateFrom {c c' : Context} (h : ClientsAlike rel client client' c.pending c'.pending)
    (hsame : ∀ d, d ∈ c'.visited ↔ d ∈ c.visited) {s : Session σ} {t : Session τ} (hrel : rel s t)
    (className : String) :
    (generateFrom client className c s).Alike rel c.pending c'.pending (generateFrom client' className c' t) := by
  by_cases hc : className ∈ c.visited
  · rw [Traversal.generateFrom, Traversal.generateFrom, if_pos hc, if_pos ((hsame className).2 hc)]
    exact ⟨rfl, hsame, ⟨[], rfl, rfl⟩, hrel⟩
  · have hc' : className ∉ c'.visited := fun hin => hc ((hsame className).1 hin)
    have halike := h.opens [] className (mem_cons_congr hsame className) hrel
    rw [Traversal.generateFrom, Traversal.generateFrom, if_neg hc, if_neg hc']
    dsimp only
    simp only [List.nil_append] at halike
    generalize openClass client (className :: c.visited) (pendingImports c.pending) className s = r at halike ⊢
    generalize openClass client' (className :: c'.visited) (pendingImports c'.pending) className t = r' at halike ⊢
    cases halike with
    | error hrel' => exact ⟨rfl, mem_cons_congr hsame className, ⟨[], rfl, rfl⟩, hrel'⟩
    | @ok frame _ _ hrel' => exact h.walk _ [frame] _ (mem_cons_congr hsame className) hrel'

end Alike

/-! ## The call for one class -/

lemma valueOf_generate (client : Client σ) (className : String) (s : Session (Traversal σ)) :
    Action.valueOf (generate client className s) =
      (generateFrom client className s.state.context ⟨s.state.client, s.journal⟩).result := by
  unfold generate
  dsimp only
  generalize generateFrom client className s.state.context ⟨s.state.client, s.journal⟩ = o
  cases h : o.result <;> rfl

lemma state_generate (client : Client σ) (className : String) (s : Session (Traversal σ)) :
    (Action.sessionOf (generate client className s)).state =
      ⟨(generateFrom client className s.state.context ⟨s.state.client, s.journal⟩).session.state,
        (generateFrom client className s.state.context ⟨s.state.client, s.journal⟩).context⟩ := by
  unfold generate
  dsimp only
  generalize generateFrom client className s.state.context ⟨s.state.client, s.journal⟩ = o
  cases h : o.result <;> rfl

lemma reported_generate (client : Client σ) (className : String) (s : Session (Traversal σ)) :
    (Action.sessionOf (generate client className s)).reported =
      (generateFrom client className s.state.context ⟨s.state.client, s.journal⟩).session.reported := by
  unfold generate
  dsimp only
  generalize generateFrom client className s.state.context ⟨s.state.client, s.journal⟩ = o
  cases h : o.result with
  | error e => rfl
  | ok modules =>
    by_cases hc : className ∈ s.state.context.visited <;>
      simp [Action.sessionOf, Session.reported, hc, Event.reportedClass?]

end Typings.Traversal
