import Mathlib.Data.List.TakeWhile
import Typings.Proofs.PendingFrames

/-!
# The order in which classes are opened

With each class that is opened, a walk reports the references that are still waiting. The order in which they stand is
the one in which they are tried: once the class has been converted, its own references come in front of them, and the
first of all these names that was not visited is the class that is opened next. Where every one of them was visited,
the call is over.
-/

namespace Typings

/-! ## Openings -/

/-- The class whose conversion starts with the event, and the references that wait meanwhile. -/
def Event.opening? : Event → Option (String × List String)
  | .opened className pending => some (className, pending)
  | _ => none

@[simp] lemma Conversion.Converted.filterMap_opening_events (c : Converted) :
    c.events.filterMap Event.opening? = [] := by
  cases h : c.info.isAbstract <;> simp [events, h, Event.opening?]

namespace Session

variable {σ : Type}

/-- The classes that were opened, in their order, each with the references that waited then. -/
def openings (s : Session σ) : List (String × List String) :=
  s.journal.toList.filterMap Event.opening?

@[simp] lemma openings_asking (pending : List String) (className : String) (s : Session σ) :
    (s.asking pending className).openings = s.openings ++ [(className, pending)] := by
  simp [openings, asking, List.filterMap_cons, Event.opening?]

@[simp] lemma openings_noting (events : List Event) (s : Session σ) :
    (s.noting events).openings = s.openings ++ events.filterMap Event.opening? := by
  simp [openings, noting]

end Session

namespace Traversal

variable {σ : Type} {known : List String} {answer : String → Except LoadError Java.ClassInfo}

lemma openings_generate (client : Client σ) (className : String) (s : Session (Traversal σ)) :
    (Action.sessionOf (generate client className s)).openings =
      (generateFrom client className s.state.context ⟨s.state.client, s.journal⟩).session.openings := by
  unfold generate
  dsimp only
  generalize generateFrom client className s.state.context ⟨s.state.client, s.journal⟩ = o
  cases h : o.result with
  | error e => rfl
  | ok modules =>
    by_cases hc : className ∈ s.state.context.visited <;>
      simp [Action.sessionOf, Session.openings, hc, Event.opening?]

section Opening

variable {visited pending : List String} {className : String} {s s' : Session σ}

/-- Opening a class leaves one opening behind. Its frame waits for the references of the class if this could be
converted. -/
lemma openings_of_ok {frame : Frame}
    (h : openClass (Client.ofAnswers known answer) visited pending className s = .ok frame s') :
    s'.openings = s.openings ++ [(className, pending)] ∧
      ∀ c, convertAnswer answer visited className = .ok c → frame.imports = c.references.unresolved := by
  cases hc : convertAnswer answer visited className with
  | error e =>
    rw [openClass_error hc] at h
    cases h
  | ok c =>
    rw [openClass_ok hc] at h
    cases h
    refine ⟨by simp, fun c' hc' => ?_⟩
    cases hc'
    rfl

lemma openings_of_error {e : GenerationError}
    (h : openClass (Client.ofAnswers known answer) visited pending className s = .error e s') :
    s'.openings = s.openings ++ [(className, pending)] ∧ convertAnswer answer visited className = .error e := by
  cases hc : convertAnswer answer visited className with
  | error cause =>
    rw [openClass_error hc] at h
    cases h
    exact ⟨by simp, rfl⟩
  | ok c =>
    rw [openClass_ok hc] at h
    cases h

lemma openings_of_fails (hknown : ∀ c info, answer c = .ok info → c ∈ known) {e : GenerationError}
    (h : OpeningFails (Client.ofAnswers known answer) visited pending className s e s') :
    s'.openings = s.openings ++ [(className, pending)] ∧ convertAnswer answer visited className = .error e := by
  cases h with
  | failed hopen => exact openings_of_error hopen
  | unknown hopen hunknown => exact absurd (mem_known_of_openClass hknown hopen) hunknown

end Opening

/-! ## The class that is opened next -/

/-- The first name that was not visited, with the names behind it. -/
def nextOpening (visited names : List String) : Option (String × List String) :=
  match names.dropWhile (· ∈ visited) with
  | [] => none
  | next :: rest => some (next, rest)

section Next

variable {visited names : List String} {name : String}

lemma nextOpening_of_mem (h : name ∈ visited) : nextOpening visited (name :: names) = nextOpening visited names := by
  unfold nextOpening
  rw [List.dropWhile_cons_of_pos (by simpa using h)]

lemma nextOpening_of_notMem (h : name ∉ visited) : nextOpening visited (name :: names) = some (name, names) := by
  unfold nextOpening
  rw [List.dropWhile_cons_of_neg (by simpa using h)]

lemma map_fst_nextOpening (visited names : List String) :
    (nextOpening visited names).map Prod.fst = names.find? (· ∉ visited) := by
  have hfind := List.find?_not_eq_head?_dropWhile (fun name => decide (name ∈ visited)) names
  unfold nextOpening
  simp only [decide_not, hfind]
  cases names.dropWhile (· ∈ visited) <;> rfl

lemma nextOpening_eq_none (h : ∀ name ∈ names, name ∈ visited) : nextOpening visited names = none := by
  unfold nextOpening
  rw [List.dropWhile_eq_nil_iff.2 (by simpa using h)]

end Next

/-! ## Openings in turn -/

/-- The classes that are visited once those in `start` were visited and then some were opened. -/
def visitedBy (start : List String) (openings : List (String × List String)) : List String :=
  (openings.map Prod.fst).reverse ++ start

lemma visitedBy_concat (start : List String) (openings : List (String × List String)) (className : String)
    (pending : List String) :
    visitedBy start (openings ++ [(className, pending)]) = className :: visitedBy start openings := by
  simp [visitedBy]

/-- After each opened class that can be converted comes the first of its references and of those that waited before
that was not visited; what comes after the last opening is `next?`. -/
def InTurn (answer : String → Except LoadError Java.ClassInfo) (start : List String)
    (openings : List (String × List String)) (next? : Option (String × List String)) : Prop :=
  ∀ before className pending after c, openings = before ++ (className, pending) :: after →
    convertAnswer answer (visitedBy start (before ++ [(className, pending)])) className = .ok c →
    after.head?.or next? =
      nextOpening (visitedBy start (before ++ [(className, pending)])) (c.references.unresolved ++ pending)

lemma InTurn.nil (start : List String) (next? : Option (String × List String)) : InTurn answer start [] next? := by
  intro before className pending after c hsplit
  simp at hsplit

/-- The class that comes next is opened. -/
lemma InTurn.concat {start pending : List String} {openings : List (String × List String)} {className : String}
    {next? : Option (String × List String)} (h : InTurn answer start openings (some (className, pending)))
    (hnext : ∀ c, convertAnswer answer (className :: visitedBy start openings) className = .ok c →
      next? = nextOpening (className :: visitedBy start openings) (c.references.unresolved ++ pending)) :
    InTurn answer start (openings ++ [(className, pending)]) next? := by
  intro before className' pending' after c hsplit hok
  rcases List.eq_nil_or_concat' after with rfl | ⟨between, last, rfl⟩
  · obtain ⟨rfl, hlast⟩ := List.append_inj' hsplit rfl
    cases hlast
    rw [visitedBy_concat] at hok ⊢
    exact hnext c hok
  · rw [← List.cons_append, ← List.append_assoc] at hsplit
    obtain ⟨rfl, hlast⟩ := List.append_inj' hsplit rfl
    cases hlast
    have hbetween := h before className' pending' between c rfl hok
    cases between with
    | nil => exact hbetween
    | cons first between => exact hbetween

/-! ## Turn by turn -/

/-- What a call that started with the classes in `start` visited, above no other frames, keeps turn by turn. -/
def OpensInTurn (answer : String → Except LoadError Java.ClassInfo) (start : List String) (s : Session σ)
    (moment : Moment σ) : Prop :=
  ∃ openings, moment.session.openings = s.openings ++ openings ∧ moment.visited = visitedBy start openings ∧
    InTurn answer start openings (nextOpening moment.visited (pendingImports moment.frames))

/-- What such a call leaves behind: it goes on as long as a class comes next, and fails only with a class that cannot be
converted. -/
def OpenedInTurn (answer : String → Except LoadError Java.ClassInfo) (start : List String) (s : Session σ)
    (o : Outcome σ) : Prop :=
  ∃ openings, o.session.openings = s.openings ++ openings ∧ InTurn answer start openings none ∧
    ∀ e, o.result = .error e → ∃ before className pending, openings = before ++ [(className, pending)] ∧
      convertAnswer answer (className :: visitedBy start before) className = .error e

/-- A class that comes next cannot be converted. -/
lemma InTurn.failed {start pending : List String} {openings : List (String × List String)} {className : String}
    {s s' : Session σ} {e : GenerationError} (h : InTurn answer start openings (some (className, pending)))
    (hopenings : s'.openings = s.openings ++ openings ++ [(className, pending)])
    (hfails : convertAnswer answer (className :: visitedBy start openings) className = .error e) (context : Context) :
    OpenedInTurn answer start s ⟨.error e, context, s'⟩ := by
  refine ⟨openings ++ [(className, pending)], by rw [hopenings, List.append_assoc], h.concat fun c hok => ?_,
    fun e' he' => ?_⟩
  · rw [hfails] at hok
    cases hok
  · cases he'
    exact ⟨openings, className, pending, rfl, hfails⟩

theorem keeps_opensInTurn (hknown : ∀ c info, answer c = .ok info → c ∈ known) (start : List String) (s : Session σ) :
    Keeps (Client.ofAnswers known answer) [] (OpensInTurn answer start s) (OpenedInTurn answer start s) where
  drop := by
    rintro visited m className imports fs finished t hc ⟨openings, hopenings, hvisited, hturn⟩
    refine ⟨openings, hopenings, hvisited, ?_⟩
    simp only [pendingImports, List.flatMap_cons, List.cons_append] at hturn ⊢
    rwa [nextOpening_of_mem hc] at hturn
  finish := by
    rintro visited m fs finished t ⟨openings, hopenings, hvisited, hturn⟩
    exact ⟨openings, hopenings, hvisited, hturn⟩
  enter := by
    rintro visited m className imports fs finished t frame t' hnew ⟨openings, hopenings, hvisited, hturn⟩ hopen
    obtain rfl : visited = visitedBy start openings := hvisited
    simp only [pendingImports, List.flatMap_cons, List.cons_append] at hturn
    rw [nextOpening_of_notMem hnew] at hturn
    obtain ⟨hopenings', himports⟩ := openings_of_ok hopen
    rw [List.append_nil] at hopenings'
    change t.openings = _ at hopenings
    refine ⟨_, ?_, (visitedBy_concat start openings className _).symm, hturn.concat fun c hok => ?_⟩
    · exact hopenings'.trans (by rw [hopenings, List.append_assoc]; rfl)
    · simp only [pendingImports, List.flatMap_cons, himports c hok]
  done := by
    rintro visited finished t ⟨openings, hopenings, hvisited, hturn⟩
    exact ⟨openings, hopenings, hturn, by simp⟩
  fail := by
    rintro visited m className imports fs finished t e t' hnew ⟨openings, hopenings, hvisited, hturn⟩ hfails
    obtain rfl : visited = visitedBy start openings := hvisited
    simp only [pendingImports, List.flatMap_cons, List.cons_append] at hturn
    rw [nextOpening_of_notMem hnew] at hturn
    obtain ⟨hopenings', hcause⟩ := openings_of_fails hknown hfails
    rw [List.append_nil] at hopenings'
    change t.openings = _ at hopenings
    exact hturn.failed (hopenings'.trans (by rw [hopenings]; rfl)) hcause _

lemma generateFrom_opensInTurn (hknown : ∀ c info, answer c = .ok info → c ∈ known) (className : String)
    (visited : List String) (s : Session σ) :
    OpenedInTurn answer visited s (generateFrom (Client.ofAnswers known answer) className ⟨visited, []⟩ s) := by
  by_cases hc : className ∈ visited
  · rw [generateFrom, if_pos hc]
    exact ⟨[], by simp, .nil _ _, by simp⟩
  · have hroot : InTurn answer visited [] (some (className, [])) := .nil _ _
    refine (keeps_opensInTurn hknown visited s).generateFrom hc (fun frame s' hopen => ?_) fun e s' hopen => ?_
    · obtain ⟨hopenings, himports⟩ := openings_of_ok hopen
      refine ⟨[(className, [])], hopenings, rfl, hroot.concat fun c hok => ?_⟩
      simp only [pendingImports, List.flatMap_cons, himports c hok]
      rfl
    · obtain ⟨hopenings, hcause⟩ := openings_of_error hopen
      rw [← List.append_nil s.openings] at hopenings
      exact hroot.failed hopenings hcause _

/-- In a call with no frames of earlier calls, the references that wait when a class is opened stand in the order in
which they will be tried: if the class can be converted, the class opened next is the first of its own references and
then those that is not visited by then, and if they all are, no class is opened any more and the call succeeds. -/
theorem next_opening_is_first_pending (hknown : ∀ c info, answer c = .ok info → c ∈ known) (className : String)
    (s : Session (Traversal σ)) (hpending : s.state.context.pending = []) :
    ∃ openings,
      (Action.sessionOf (generate (Client.ofAnswers known answer) className s)).openings = s.openings ++ openings ∧
      ∀ before opened pending after c, openings = before ++ (opened, pending) :: after →
        convertAnswer answer (visitedBy s.state.context.visited (before ++ [(opened, pending)])) opened = .ok c →
        after.head?.map Prod.fst = (c.references.unresolved ++ pending).find?
          (· ∉ visitedBy s.state.context.visited (before ++ [(opened, pending)])) ∧
        ((∀ name ∈ c.references.unresolved ++ pending,
            name ∈ visitedBy s.state.context.visited (before ++ [(opened, pending)])) →
          after = [] ∧ ∃ modules s', generate (Client.ofAnswers known answer) className s = .ok modules s') := by
  have hvalue := valueOf_generate (Client.ofAnswers known answer) className s
  have hopenings := openings_generate (Client.ofAnswers known answer) className s
  have hcontext : s.state.context = ⟨s.state.context.visited, []⟩ := by rw [← hpending]
  rw [hcontext] at hvalue hopenings
  obtain ⟨openings, hall, hturn, hfails⟩ :=
    generateFrom_opensInTurn hknown className s.state.context.visited ⟨s.state.client, s.journal⟩
  refine ⟨openings, hopenings.trans hall, fun before opened pending after c hsplit hok => ?_⟩
  have hnext := hturn before opened pending after c hsplit hok
  rw [Option.or_none] at hnext
  refine ⟨by rw [hnext, map_fst_nextOpening], fun hvisited => ?_⟩
  rw [nextOpening_eq_none hvisited, List.head?_eq_none_iff] at hnext
  refine ⟨hnext, ?_⟩
  cases hrun : generate (Client.ofAnswers known answer) className s with
  | ok modules s' => exact ⟨modules, s', rfl⟩
  | error e s' =>
    -- The class that cannot be converted would be the last one opened.
    rw [hrun] at hvalue
    obtain ⟨before', failing, pending', hlast, hcause⟩ := hfails e hvalue.symm
    rw [hsplit, hnext] at hlast
    obtain ⟨rfl, hsame⟩ := List.append_inj' hlast rfl
    cases hsame
    rw [visitedBy_concat, hcause] at hok
    cases hok

/-- Three classes, of which the first refers to both others and the second to the third. -/
def shortcut : ClassTable where
  classes := [
    ("r.Root", { name := "r.Root", modifiers := ⟨1⟩, fields := [⟨"a", "r.A", ⟨1⟩⟩, ⟨"c", "r.C", ⟨1⟩⟩] }),
    ("r.A", { name := "r.A", modifiers := ⟨1⟩, fields := [⟨"c", "r.C", ⟨1⟩⟩] }),
    ("r.C", { name := "r.C", modifiers := ⟨1⟩ })]

theorem next_opening_is_first_pending_shortcut :
    (∀ c info, shortcut.answer c = .ok info → c ∈ shortcut.classes.map (·.1)) ∧
    (Action.sessionOf (generate (Client.ofTable shortcut) "r.Root" ⟨⟨(), {}⟩, #[]⟩)).openings =
      [("r.Root", []), ("r.A", ["r.C"]), ("r.C", ["r.C"])] ∧
    some "r.C" = (["r.C"] ++ ["r.C"]).find? (· ∉ ["r.A", "r.Root"]) ∧
    ∃ modules s', generate (Client.ofTable shortcut) "r.Root" ⟨⟨(), {}⟩, #[]⟩ = .ok modules s' := by
  have hrun : (Action.sessionOf (generate (Client.ofTable shortcut) "r.Root" ⟨⟨(), {}⟩, #[]⟩)).openings =
      [("r.Root", []), ("r.A", ["r.C"]), ("r.C", ["r.C"])] := by
    decide +kernel
  have hsecond : (convertAnswer shortcut.answer ["r.A", "r.Root"] "r.A").toOption.map (·.references.unresolved) =
      some ["r.C"] := by
    decide +kernel
  have hlast : (convertAnswer shortcut.answer ["r.C", "r.A", "r.Root"] "r.C").toOption.map (·.references.unresolved) =
      some [] := by
    decide +kernel
  obtain ⟨openings, hall, hnext⟩ := next_opening_is_first_pending ClassTable.mem_of_answer "r.Root"
    (⟨⟨(), {}⟩, #[]⟩ : Session (Traversal Unit)) rfl
  obtain rfl : [("r.Root", []), ("r.A", ["r.C"]), ("r.C", ["r.C"])] = openings := hrun.symm.trans hall
  refine ⟨ClassTable.mem_of_answer, hrun, ?_, ?_⟩
  · cases hok : convertAnswer shortcut.answer ["r.A", "r.Root"] "r.A" with
    | error e => simp [hok, Except.toOption] at hsecond
    | ok c =>
      simp only [hok, Except.toOption, Option.map_some, Option.some.injEq] at hsecond
      have hfirst := (hnext [("r.Root", [])] "r.A" ["r.C"] _ c rfl hok).1
      rwa [hsecond] at hfirst
  · cases hok : convertAnswer shortcut.answer ["r.C", "r.A", "r.Root"] "r.C" with
    | error e => simp [hok, Except.toOption] at hlast
    | ok c =>
      simp only [hok, Except.toOption, Option.map_some, Option.some.injEq] at hlast
      refine ((hnext [("r.Root", []), ("r.A", ["r.C"])] "r.C" ["r.C"] [] c rfl hok).2 ?_).2
      rw [hlast]
      decide

end Traversal

end Typings
