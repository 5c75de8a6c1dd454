import Typings.Proofs.Reachability
import Typings.Proofs.WalkInvariants

/-!
# The frames of a walk that fails

A call for a class leaves the frames of earlier calls as they are, and what it comes to does not depend on them. A call
that succeeds takes its own frames off again. One that fails leaves a frame for each class on the way from the
requested one to the one that cannot be had, with the references that were still to come there.
-/

namespace Typings.Traversal

variable {σ : Type} {known : List String} {answer : String → Except LoadError Java.ClassInfo}

/-! ## Classes that wait for one another -/

/-- `WaitsFor answer visited root frames next opened`: once the classes in `opened` have been opened after those in
`visited`, the frames, innermost first, wait for the class `next`; without frames it is the root. Each frame has the
module of a class for which the frame below it waited. The references in front of the one that it waits for were opened
meanwhile, and it keeps those that follow. -/
inductive WaitsFor (answer : String → Except LoadError Java.ClassInfo) (visited : List String) (root : String) :
    List Frame → String → List String → Prop
  | root : WaitsFor answer visited root [] root []
  | frame {frames className opened c front next imports between} :
    WaitsFor answer visited root frames className opened →
    convertAnswer answer (className :: (opened.reverse ++ visited)) className = .ok c →
    c.references.unresolved = front ++ next :: imports → (∀ d ∈ front, d ∈ between) → next ∉ between →
    WaitsFor answer visited root (⟨moduleOf c, imports⟩ :: frames) next (opened ++ className :: between)

/-- The frames of a walk after it has opened the classes in `opened`: the walk is done, or the innermost frame goes on
with references that may have been opened meanwhile. -/
inductive Underway (answer : String → Except LoadError Java.ClassInfo) (visited : List String) (root : String) :
    List String → List Frame → Prop
  | done {opened} : Underway answer visited root opened []
  | frame {frames className opened c front imports between} :
    WaitsFor answer visited root frames className opened →
    convertAnswer answer (className :: (opened.reverse ++ visited)) className = .ok c →
    c.references.unresolved = front ++ imports → (∀ d ∈ front, d ∈ between) →
    Underway answer visited root (opened ++ className :: between) (⟨moduleOf c, imports⟩ :: frames)

section Chain

variable {visited opened imports : List String} {root next : String} {frames : List Frame} {m : Module}

/-- A reference of the innermost class that was visited has been opened since then. -/
lemma Underway.drop (h : Underway answer visited root opened (⟨m, next :: imports⟩ :: frames))
    (hvisited : next ∈ opened.reverse ++ visited) : Underway answer visited root opened (⟨m, imports⟩ :: frames) := by
  generalize hstack : (⟨m, next :: imports⟩ :: frames : List Frame) = stack at h
  cases h with
  | done => cases hstack
  | @frame _ className before c front _ between hwaits hok hsplit hfront =>
    cases hstack
    have hleft : next ∈ c.references.unresolved := by simp [hsplit]
    have hnew := ((mem_unresolved hok).1 hleft).2
    -- The reference was left because it was not visited when its class was opened, so it was opened after that.
    have hbetween : next ∈ between := by
      simp only [List.mem_cons, List.mem_append, List.mem_reverse, not_or] at hnew hvisited
      rcases hvisited with (hin | hin | hin) | hin
      · exact absurd hin hnew.2.1
      · exact absurd hin hnew.1
      · exact hin
      · exact absurd hin hnew.2.2
    have hdropped : c.references.unresolved = (front ++ [next]) ++ imports := by simp [hsplit]
    refine .frame hwaits hok hdropped fun d hd => ?_
    rcases List.mem_append.1 hd with hd | hd
    · exact hfront d hd
    · exact List.mem_singleton.1 hd ▸ hbetween

/-- When the innermost class is finished, the frame that waited for it goes on. -/
lemma Underway.finish (h : Underway answer visited root opened (⟨m, []⟩ :: frames)) :
    Underway answer visited root opened frames := by
  generalize hstack : (⟨m, []⟩ :: frames : List Frame) = stack at h
  cases h with
  | done => cases hstack
  | @frame _ className before c _ _ between hwaits _ _ _ =>
    cases hstack
    cases hwaits with
    | root => exact .done
    | @frame frames outer before converted front _ imports meanwhile hwaits hok hsplit hfront _ =>
      -- The finished class joins the references in front of those with which the frame goes on.
      rw [List.append_assoc, List.cons_append]
      have hdone : converted.references.unresolved = (front ++ [className]) ++ imports := by simp [hsplit]
      refine .frame hwaits hok hdone fun d hd => ?_
      rcases List.mem_append.1 hd with hd | hd
      · exact List.mem_append_left _ (hfront d hd)
      · rw [List.mem_singleton.1 hd]
        exact List.mem_append_right _ List.mem_cons_self

/-- The innermost frame waits for the class that is tried next, if it was not visited. -/
lemma Underway.waitsFor (h : Underway answer visited root opened (⟨m, next :: imports⟩ :: frames))
    (hnew : next ∉ opened.reverse ++ visited) :
    WaitsFor answer visited root (⟨m, imports⟩ :: frames) next opened := by
  generalize hstack : (⟨m, next :: imports⟩ :: frames : List Frame) = stack at h
  cases h with
  | done => cases hstack
  | @frame _ className before c front _ between hwaits hok hsplit hfront =>
    cases hstack
    refine .frame hwaits hok hsplit hfront fun hin => hnew ?_
    simp [hin]

lemma WaitsFor.underway {c : Conversion.Converted} (h : WaitsFor answer visited root frames next opened)
    (hok : convertAnswer answer (next :: (opened.reverse ++ visited)) next = .ok c) :
    Underway answer visited root (opened ++ [next]) (⟨moduleOf c, c.references.unresolved⟩ :: frames) :=
  .frame h hok (List.nil_append _).symm (by simp)

end Chain

/-! ## Where a call ends -/

/-- The class cannot be had while those in `visited` are resolved: it fails to load or to convert, or it is not among the
classes that the client knows. -/
def CannotOpen (known : List String) (answer : String → Except LoadError Java.ClassInfo) (visited : List String)
    (className : String) (e : GenerationError) : Prop :=
  convertAnswer answer visited className = .error e ∨
    (∃ c, convertAnswer answer visited className = .ok c) ∧ className ∉ known ∧ e = .load (.classNotFound className)

/-- What a call for the root leaves behind when it fails: the classes that it opened, the last of which cannot be had, and
above the frames of earlier calls those that wait for it. -/
structure Stalls (known : List String) (answer : String → Except LoadError Java.ClassInfo) (root : String)
    (before after : Context) (opened : List String) (failing : String) (e : GenerationError) : Prop where
  visited : after.visited = (opened ++ [failing]).reverse ++ before.visited
  pending : ∃ frames, after.pending = frames ++ before.pending ∧
    WaitsFor answer before.visited root frames failing opened
  cause : CannotOpen known answer after.visited failing e

section Opening

variable {visited pending : List String} {className : String} {s s' : Session σ}

lemma openClass_eq_ok {frame : Frame}
    (h : openClass (Client.ofAnswers known answer) visited pending className s = .ok frame s') :
    ∃ c, convertAnswer answer visited className = .ok c ∧ frame = ⟨moduleOf c, c.references.unresolved⟩ ∧
      s'.reported = s.reported ++ [className] := by
  cases hc : convertAnswer answer visited className with
  | error e =>
    rw [openClass_error hc] at h
    cases h
  | ok c =>
    rw [openClass_ok hc] at h
    cases h
    exact ⟨c, rfl, rfl, by simp⟩

lemma cannotOpen_of_error {e : GenerationError}
    (h : openClass (Client.ofAnswers known answer) visited pending className s = .error e s') :
    CannotOpen known answer visited className e ∧ s'.reported = s.reported ++ [className] := by
  cases hc : convertAnswer answer visited className with
  | error cause =>
    rw [openClass_error hc] at h
    cases h
    exact ⟨.inl hc, by simp⟩
  | ok c =>
    rw [openClass_ok hc] at h
    cases h

lemma cannotOpen_of_fails {e : GenerationError}
    (h : OpeningFails (Client.ofAnswers known answer) visited pending className s e s') :
    CannotOpen known answer visited className e ∧ s'.reported = s.reported ++ [className] := by
  cases h with
  | failed hopen => exact cannotOpen_of_error hopen
  | unknown hopen hknown =>
    obtain ⟨c, hc, _, hreported⟩ := openClass_eq_ok hopen
    exact ⟨.inr ⟨⟨c, hc⟩, hknown, rfl⟩, hreported⟩

end Opening

/-- What a call for the root that started with `before` keeps turn by turn. -/
def Chained (answer : String → Except LoadError Java.ClassInfo) (root : String) (before : Context) (s : Session σ)
    (moment : Moment σ) : Prop :=
  ∃ opened, moment.visited = opened.reverse ++ before.visited ∧ moment.session.reported = s.reported ++ opened ∧
    Underway answer before.visited root opened moment.frames

/-- What a call for the root that started with `before` leaves behind. -/
def Left (known : List String) (answer : String → Except LoadError Java.ClassInfo) (root : String) (before : Context)
    (s : Session σ) (o : Outcome σ) : Prop :=
  (∀ modules, o.result = .ok modules → o.context.pending = before.pending) ∧
    ∀ e, o.result = .error e → ∃ opened failing, Stalls known answer root before o.context opened failing e ∧
      o.session.reported = s.reported ++ (opened ++ [failing])

theorem keeps_chained (root : String) (before : Context) (s : Session σ) :
    Keeps (Client.ofAnswers known answer) before.pending (Chained answer root before s)
      (Left known answer root before s) where
  drop := by
    rintro visited m className imports fs finished t hc ⟨opened, hvisited, hreported, hunder⟩
    cases hvisited
    exact ⟨opened, rfl, hreported, hunder.drop hc⟩
  finish := by
    rintro visited m fs finished t ⟨opened, hvisited, hreported, hunder⟩
    exact ⟨opened, hvisited, hreported, hunder.finish⟩
  enter := by
    rintro visited m className imports fs finished t frame t' hnew ⟨opened, hvisited, hreported, hunder⟩ hopen
    cases hvisited
    obtain ⟨c, hok, rfl, hreported'⟩ := openClass_eq_ok hopen
    refine ⟨opened ++ [className], by simp, ?_, (hunder.waitsFor hnew).underway hok⟩
    change t.reported = _ at hreported
    rw [hreported', hreported, List.append_assoc]
  done := by
    intro visited finished t _
    exact ⟨fun _ _ => rfl, by simp⟩
  fail := by
    rintro visited m className imports fs finished t e t' hnew ⟨opened, hvisited, hreported, hunder⟩ hfails
    cases hvisited
    obtain ⟨hcause, hreported'⟩ := cannotOpen_of_fails hfails
    refine ⟨by simp, fun e' he => ?_⟩
    cases he
    refine ⟨opened, className, ⟨by simp, ⟨_, rfl, hunder.waitsFor hnew⟩, hcause⟩, ?_⟩
    change t.reported = _ at hreported
    rw [hreported', hreported, List.append_assoc]

variable (known answer) in
lemma generateFrom_left (root : String) (before : Context) (s : Session σ) :
    Left known answer root before s (generateFrom (Client.ofAnswers known answer) root before s) := by
  by_cases hc : root ∈ before.visited
  · rw [generateFrom, if_pos hc]
    exact ⟨fun _ _ => rfl, by simp⟩
  · refine (keeps_chained root before s).generateFrom hc (fun frame s' hopen => ?_) fun e s' hopen => ?_
    · obtain ⟨c, hok, rfl, hreported⟩ := openClass_eq_ok hopen
      exact ⟨[root], rfl, hreported, WaitsFor.root.underway hok⟩
    · obtain ⟨hcause, hreported⟩ := cannotOpen_of_error hopen
      refine ⟨by simp, fun e' he => ?_⟩
      cases he
      exact ⟨[], root, ⟨rfl, ⟨[], rfl, .root⟩, hcause⟩, hreported⟩

/-! ## Independence from earlier frames -/

lemma convertAnswer_congr {visited visited' : List String} (hsame : ∀ c, c ∈ visited' ↔ c ∈ visited)
    (className : String) : convertAnswer answer visited' className = convertAnswer answer visited className := by
  cases ha : answer className with
  | error e => simp only [convertAnswer, ha]
  | ok info => simp only [convertAnswer, ha, Conversion.convertClass_congr hsame]

variable (known answer) in
/-- Clients whose answers depend only on the name open a class alike above any frames. -/
lemma ofAnswers_alike (below below' : List Frame) :
    ClientsAlike (σ := σ) (τ := σ) (fun _ _ => True) (Client.ofAnswers known answer) (Client.ofAnswers known answer) below
      below' where
  known := rfl
  opens := by
    intro visited visited' s t frames className hsame _
    have hcongr : convertAnswer answer visited' className = convertAnswer answer visited className :=
      convertAnswer_congr hsame className
    cases hc : convertAnswer answer visited className with
    | error e =>
      rw [hc] at hcongr
      rw [openClass_error hc, openClass_error hcongr]
      exact .error trivial
    | ok c =>
      rw [hc] at hcongr
      rw [openClass_ok hc, openClass_ok hcongr]
      exact .ok trivial

/-- What a call for a class comes to, and which classes are visited then, depends only on the classes visited before. When
it succeeds, the waiting frames are those that waited before. When it fails, there are above them the frames of the
classes on the way to the one that cannot be had, and the classes reported by the call are visited. -/
theorem generate_above_pending (known : List String) (answer : String → Except LoadError Java.ClassInfo)
    (className : String) (s : Session (Traversal σ)) :
    (∀ t : Session (Traversal σ), (∀ c, c ∈ t.state.context.visited ↔ c ∈ s.state.context.visited) →
      Action.valueOf (generate (Client.ofAnswers known answer) className t) =
        Action.valueOf (generate (Client.ofAnswers known answer) className s) ∧
      ∀ c, c ∈ (Action.sessionOf (generate (Client.ofAnswers known answer) className t)).state.context.visited ↔
        c ∈ (Action.sessionOf (generate (Client.ofAnswers known answer) className s)).state.context.visited) ∧
    (∀ modules s', generate (Client.ofAnswers known answer) className s = .ok modules s' →
      s'.state.context.pending = s.state.context.pending) ∧
    ∀ e s', generate (Client.ofAnswers known answer) className s = .error e s' →
      ∃ opened failing, Stalls known answer className s.state.context s'.state.context opened failing e ∧
        s'.reported = s.reported ++ (opened ++ [failing]) := by
  have hvalue := valueOf_generate (Client.ofAnswers known answer) className s
  have hstate := state_generate (Client.ofAnswers known answer) className s
  have hreported := reported_generate (Client.ofAnswers known answer) className s
  obtain ⟨hok, herror⟩ := generateFrom_left known answer className s.state.context ⟨s.state.client, s.journal⟩
  refine ⟨fun t hsame => ?_, fun modules s' hs' => ?_, fun e s' hs' => ?_⟩
  · have halike := (ofAnswers_alike known answer s.state.context.pending t.state.context.pending).generateFrom hsame
      (s := ⟨s.state.client, s.journal⟩) (t := ⟨t.state.client, t.journal⟩) trivial className
    rw [hvalue, hstate, valueOf_generate, state_generate]
    exact ⟨halike.result, halike.visited⟩
  · rw [hs'] at hvalue hstate
    change s'.state = _ at hstate
    rw [hstate]
    exact hok modules hvalue.symm
  · rw [hs'] at hvalue hstate hreported
    change s'.state = _ at hstate
    change s'.reported = _ at hreported
    rw [hstate, hreported]
    exact herror e hvalue.symm

theorem generate_above_pending_denied :
    ∃ e after opened failing,
      Stalls (ClassTable.diamond.classes.map (·.1)) { ClassTable.diamond with denied := ["r.C"] }.answer "r.Root"
        ⟨[], [⟨⟨"r.Old", ""⟩, ["r.C"]⟩]⟩ after opened failing e ∧
      after.pending.map (fun f => (f.module.name, f.imports)) =
        [("r.A", []), ("r.Root", ["r.B"]), ("r.Old", ["r.C"])] := by
  have hstack : (match generate (Client.ofTable { ClassTable.diamond with denied := ["r.C"] }) "r.Root"
      ⟨⟨(), ⟨[], [⟨⟨"r.Old", ""⟩, ["r.C"]⟩]⟩⟩, #[]⟩ with
      | .ok _ _ => []
      | .error _ s' => s'.state.context.pending.map fun f => (f.module.name, f.imports)) =
        [("r.A", []), ("r.Root", ["r.B"]), ("r.Old", ["r.C"])] := by
    decide +kernel
  cases hrun : generate (Client.ofTable { ClassTable.diamond with denied := ["r.C"] }) "r.Root"
      ⟨⟨(), ⟨[], [⟨⟨"r.Old", ""⟩, ["r.C"]⟩]⟩⟩, #[]⟩ with
  | ok modules s' => simp [hrun] at hstack
  | error e s' =>
    simp only [hrun] at hstack
    obtain ⟨opened, failing, hstalls, _⟩ := (generate_above_pending _ _ _ _).2.2 e s' hrun
    exact ⟨e, _, opened, failing, hstalls, hstack⟩

end Typings.Traversal
