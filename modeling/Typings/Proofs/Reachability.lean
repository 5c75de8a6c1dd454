import Mathlib.Data.List.Nodup
import Mathlib.Logic.Relation
import Typings.Proofs.ResolvedClasses
import Typings.Proofs.WalkLoop

/-!
# What a walk reaches

A class refers to those that are noted while its members are converted. Visits open exactly the classes that are reached
from the requested ones along references without passing through a class that was visited before, each of them once,
and they succeed just when each of these classes can be loaded and converted.
-/

namespace Typings.Traversal

variable {answer : String → Except LoadError Java.ClassInfo}

/-- The class `a` refers to the class `b`. -/
def Refers (answer : String → Except LoadError Java.ClassInfo) (a b : String) : Prop :=
  ∃ info, answer a = .ok info ∧ b ∈ Conversion.referredBy info

/-- References lead from `a` to `b` through classes outside `avoided`. -/
def Reaches (answer : String → Except LoadError Java.ClassInfo) (avoided : List String) (a b : String) : Prop :=
  Relation.ReflTransGen (fun c d => Refers answer c d ∧ d ∉ avoided) a b

/-- The class can be loaded and converted. -/
def Converts (answer : String → Except LoadError Java.ClassInfo) (className : String) : Prop :=
  ∃ c, convertAnswer answer [] className = .ok c

/-! ## References of converted classes -/

lemma convertAnswer_resolved (visited : List String) (className : String) :
    convertAnswer answer visited className =
      (convertAnswer answer [] className).map (Conversion.Converted.resolving visited) := by
  cases ha : answer className with
  | error e => simp [convertAnswer, ha, Except.map]
  | ok info =>
    simp only [convertAnswer, ha]
    rw [Conversion.convertClass_resolved info visited]
    cases Conversion.convertClass info [] <;> rfl

lemma not_converts_of_error {visited : List String} {className : String} {e : GenerationError}
    (h : convertAnswer answer visited className = .error e) : ¬Converts answer className := by
  rintro ⟨c, hc⟩
  rw [convertAnswer_resolved, hc] at h
  cases h

lemma convertAnswer_ok {visited : List String} {className : String} {c : Conversion.Converted}
    (h : convertAnswer answer visited className = .ok c) :
    answer className = .ok c.info ∧ c.references.all = Conversion.referredBy c.info ∧
      c.references.unresolved = (Conversion.referredBy c.info).filter (· ∉ visited) := by
  cases ha : answer className with
  | error e => simp [convertAnswer, ha] at h
  | ok info =>
    simp only [convertAnswer, ha] at h
    cases hc : Conversion.convertClass info visited with
    | error e => simp [hc, Except.mapError] at h
    | ok c' =>
      simp only [hc, Except.mapError, Except.ok.injEq] at h
      subst h
      obtain ⟨hinfo, hall, hunresolved⟩ := Conversion.convertClass_ok hc
      exact ⟨hinfo ▸ rfl, hinfo ▸ hall, hinfo ▸ hunresolved⟩

/-- The references left to a converted class are those to classes that were not visited. -/
lemma mem_unresolved {visited : List String} {className d : String} {c : Conversion.Converted}
    (h : convertAnswer answer visited className = .ok c) :
    d ∈ c.references.unresolved ↔ Refers answer className d ∧ d ∉ visited := by
  obtain ⟨hinfo, _, hunresolved⟩ := convertAnswer_ok h
  simp only [hunresolved, Refers, hinfo, List.mem_filter, decide_eq_true_eq, Except.ok.injEq, exists_eq_left']

lemma moduleOf_name (hname : Faithful answer) {visited : List String} {className : String} {c : Conversion.Converted}
    (h : convertAnswer answer visited className = .ok c) : (moduleOf c).name = className :=
  hname className c.info (convertAnswer_ok h).1

/-! ## Reaching -/

lemma Reaches.mono {avoided more : List String} {a b : String} (hsub : avoided ⊆ more)
    (h : Reaches answer more a b) : Reaches answer avoided a b := by
  induction h with
  | refl => exact .refl
  | tail _ hcd ih => exact ih.tail ⟨hcd.1, fun hd => hcd.2 (hsub hd)⟩

lemma Reaches.head {avoided : List String} {a b c : String} (hab : Refers answer a b) (hb : b ∉ avoided)
    (h : Reaches answer avoided b c) : Reaches answer avoided a c :=
  Relation.ReflTransGen.head ⟨hab, hb⟩ h

/-! ## What visits open -/

/-- Every class is opened at most once, and none that was visited before. -/
theorem VisitEach.reported_nodup {visited classNames : List String} {o : VisitOutcome}
    (h : VisitEach answer visited classNames o) : o.reported.Nodup ∧ ∀ c ∈ o.reported, c ∉ visited := by
  refine VisitEach.induct (motive := fun visited _ o => o.reported.Nodup ∧ ∀ c ∈ o.reported, c ∉ visited)
    ?nil ?seen ?failed ?stopped ?converted h
  case nil => simp
  case seen => exact fun _ _ ih => ih
  case failed =>
    intro visited className classNames e hc _
    simpa using hc
  case stopped =>
    intro visited className classNames c e o hc _ _ _ ⟨hnodup, hfresh⟩
    refine ⟨List.nodup_cons.2 ⟨fun hin => hfresh _ hin List.mem_cons_self, hnodup⟩, fun d hd => ?_⟩
    rcases List.mem_cons.1 hd with rfl | hd
    · exact hc
    · exact fun hv => hfresh d hd (List.mem_cons_of_mem _ hv)
  case converted =>
    intro visited className classNames c below o next hc _ hbelow _ ⟨hnodup, hfresh⟩ _ ⟨hnodup', hfresh'⟩
    have hfirst : (className :: o.reported).Nodup :=
      List.nodup_cons.2 ⟨fun hin => hfresh _ hin List.mem_cons_self, hnodup⟩
    have hvisited : ∀ d ∈ className :: o.reported, d ∈ o.visited := by
      intro d hd
      rcases List.mem_cons.1 hd with rfl | hd
      · exact hbelow.subset_visited List.mem_cons_self
      · exact hbelow.mem_visited.2 (.inl hd)
    refine ⟨hfirst.append hnodup' fun d hd hd' => hfresh' d hd' (hvisited d hd), fun d hd => ?_⟩
    rcases List.mem_append.1 hd with hd | hd
    · rcases List.mem_cons.1 hd with rfl | hd
      · exact hc
      · exact fun hv => hfresh d hd (List.mem_cons_of_mem _ hv)
    · exact fun hv => hfresh' d hd (hbelow.subset_visited (List.mem_cons_of_mem _ hv))

lemma reaches_of_below {visited reported : List String} {className d : String} {c : Conversion.Converted}
    (hok : convertAnswer answer (className :: visited) className = .ok c)
    (h : ∀ d ∈ reported, ∃ r ∈ c.references.unresolved,
      r ∉ className :: visited ∧ Reaches answer (className :: visited) r d)
    (hd : d ∈ className :: reported) : Reaches answer visited className d := by
  rcases List.mem_cons.1 hd with rfl | hd
  · exact .refl
  · obtain ⟨r, hr, hfresh, hreach⟩ := h d hd
    have hrefers := ((mem_unresolved hok).1 hr).1
    exact (hreach.mono (List.subset_cons_self _ _)).head hrefers fun hv => hfresh (List.mem_cons_of_mem _ hv)

/-- Every class that is opened is reached from one of the requested classes. -/
theorem VisitEach.reached {visited classNames : List String} {o : VisitOutcome}
    (h : VisitEach answer visited classNames o) :
    ∀ d ∈ o.reported, ∃ c ∈ classNames, c ∉ visited ∧ Reaches answer visited c d := by
  refine VisitEach.induct
    (motive := fun visited classNames o =>
      ∀ d ∈ o.reported, ∃ c ∈ classNames, c ∉ visited ∧ Reaches answer visited c d)
    ?nil ?seen ?failed ?stopped ?converted h
  case nil => simp
  case seen =>
    intro visited className classNames o _ _ ih d hd
    obtain ⟨c, hc, hreach⟩ := ih d hd
    exact ⟨c, List.mem_cons_of_mem _ hc, hreach⟩
  case failed =>
    intro visited className classNames e hc _ d hd
    rw [List.mem_singleton.1 hd]
    exact ⟨className, List.mem_cons_self, hc, .refl⟩
  case stopped =>
    intro visited className classNames c e o hc hok _ _ ih d hd
    exact ⟨className, List.mem_cons_self, hc, reaches_of_below hok ih hd⟩
  case converted =>
    intro visited className classNames c below o next hc hok hbelow _ ih _ ihnext d hd
    rcases List.mem_append.1 hd with hd | hd
    · exact ⟨className, List.mem_cons_self, hc, reaches_of_below hok ih hd⟩
    · obtain ⟨r, hr, hfresh, hreach⟩ := ihnext d hd
      have hsub : visited ⊆ o.visited := fun v hv => hbelow.subset_visited (List.mem_cons_of_mem _ hv)
      exact ⟨r, List.mem_cons_of_mem _ hr, fun hv => hfresh (hsub hv), hreach.mono hsub⟩

lemma Visit.reached {visited : List String} {className d : String} {o : VisitOutcome}
    (h : Visit answer visited className o) (hd : d ∈ o.reported) : Reaches answer [] className d := by
  obtain ⟨c, hc, _, hreach⟩ := h.each.reached d hd
  rw [List.mem_singleton] at hc
  exact hc ▸ hreach.mono (List.nil_subset _)

/-! ## Visits that succeed and visits that fail -/

/-- What visits leave behind when they succeed: the requested classes and all that opened classes refer to are visited,
the opened classes convert, and the modules are theirs. -/
structure Complete (answer : String → Except LoadError Java.ClassInfo) (classNames : List String) (o : VisitOutcome)
    (modules : List Module) : Prop where
  requested : ∀ c ∈ classNames, c ∈ o.visited
  closed : ∀ c ∈ o.reported, ∀ d, Refers answer c d → d ∈ o.visited
  names : (modules.map (·.name)).Perm o.reported
  contents : ∀ m ∈ modules, ∃ c, convertAnswer answer [] m.name = .ok c ∧ m = moduleOf c

theorem VisitEach.complete (hname : Faithful answer) {visited classNames : List String} {o : VisitOutcome}
    (h : VisitEach answer visited classNames o) {modules : List Module} (hresult : o.result = .ok modules) :
    Complete answer classNames o modules := by
  refine VisitEach.induct
    (motive := fun _ classNames o => ∀ modules, o.result = .ok modules → Complete answer classNames o modules)
    ?nil ?seen ?failed ?stopped ?converted h modules hresult
  case nil =>
    intro visited modules hresult
    cases hresult
    exact ⟨by simp, by simp, by simp, by simp⟩
  case seen =>
    intro visited className classNames o hc h ih modules hresult
    have hrest := ih modules hresult
    refine ⟨fun c hin => ?_, hrest.closed, hrest.names, hrest.contents⟩
    rcases List.mem_cons.1 hin with rfl | hin
    · exact h.subset_visited hc
    · exact hrest.requested c hin
  case failed => exact fun _ _ _ hresult => nomatch hresult
  case stopped => exact fun _ _ _ _ _ _ hresult => nomatch hresult
  case converted =>
    intro visited className classNames c below o next hc hok hbelow hresult ih hnext ihnext modules hmodules
    obtain ⟨more, hmore, rfl⟩ := map_eq_ok hmodules
    have hfirst := ih below hresult
    have hrest := ihnext more hmore
    have hopened : className ∈ o.visited := hbelow.subset_visited List.mem_cons_self
    refine ⟨fun d hd => ?_, fun d hd e hde => ?_, ?_, fun m hm => ?_⟩
    · rcases List.mem_cons.1 hd with rfl | hd
      · exact hnext.subset_visited hopened
      · exact hrest.requested d hd
    · rcases List.mem_append.1 hd with hd | hd
      · apply hnext.subset_visited
        rcases List.mem_cons.1 hd with rfl | hd
        -- What the class itself refers to is visited already, or it is among the references that were left.
        · by_cases he : e ∈ d :: visited
          · exact hbelow.subset_visited he
          · exact hfirst.requested e ((mem_unresolved hok).2 ⟨hde, he⟩)
        · exact hfirst.closed d hd e hde
      · exact hrest.closed d hd e hde
    · have hmodule := moduleOf_name hname hok
      simp only [List.map_append, List.map_cons, List.map_nil, hmodule]
      refine List.Perm.append ?_ hrest.names
      exact (List.perm_append_singleton _ _).trans (hfirst.names.cons className)
    · rcases List.mem_append.1 hm with hm | hm
      · rcases List.mem_append.1 hm with hm | hm
        · exact hfirst.contents m hm
        · rw [List.mem_singleton.1 hm, moduleOf_name hname hok]
          rw [convertAnswer_resolved] at hok
          obtain ⟨c', hc', rfl⟩ := map_eq_ok hok
          exact ⟨c', hc', rfl⟩
      · exact hrest.contents m hm

/-- Visits that fail have opened a class that cannot be had. -/
theorem VisitEach.exists_not_converts {visited classNames : List String} {o : VisitOutcome}
    (h : VisitEach answer visited classNames o) {e : GenerationError} (hresult : o.result = .error e) :
    ∃ c ∈ o.reported, ¬Converts answer c := by
  refine VisitEach.induct (motive := fun _ _ o => ∀ e, o.result = .error e → ∃ c ∈ o.reported, ¬Converts answer c)
    ?nil ?seen ?failed ?stopped ?converted h e hresult
  case nil => exact fun _ _ hresult => nomatch hresult
  case seen => exact fun _ _ ih => ih
  case failed => exact fun _ hfail _ _ => ⟨_, List.mem_cons_self, not_converts_of_error hfail⟩
  case stopped =>
    intro visited className classNames c e o _ _ _ hbelow ih _ _
    obtain ⟨d, hd, hfail⟩ := ih e hbelow
    exact ⟨d, List.mem_cons_of_mem _ hd, hfail⟩
  case converted =>
    intro visited className classNames c below o next _ _ _ _ _ _ ihnext e hresult
    obtain ⟨d, hd, hfail⟩ := ihnext e (map_eq_error.1 hresult)
    exact ⟨d, List.mem_append_right _ hd, hfail⟩

/-- Visits that succeed open just the classes that are reached. -/
theorem Complete.mem_reported_iff {visited classNames : List String} {o : VisitOutcome} {modules : List Module}
    (hcomplete : Complete answer classNames o modules) (h : VisitEach answer visited classNames o) {d : String} :
    d ∈ o.reported ↔ ∃ c ∈ classNames, c ∉ visited ∧ Reaches answer visited c d := by
  refine ⟨h.reached d, ?_⟩
  rintro ⟨c, hc, hfresh, hreach⟩
  -- The opened classes are closed under references to classes that were not visited before.
  induction hreach with
  | refl => exact (h.mem_visited.1 (hcomplete.requested c hc)).resolve_right hfresh
  | tail _ hcd ih => exact (h.mem_visited.1 (hcomplete.closed _ ih _ hcd.1)).resolve_right hcd.2

lemma Complete.converts {classNames : List String} {o : VisitOutcome} {modules : List Module}
    (hcomplete : Complete answer classNames o modules) {d : String} (hd : d ∈ o.reported) : Converts answer d := by
  obtain ⟨m, hm, rfl⟩ := List.mem_map.1 (hcomplete.names.mem_iff.2 hd)
  obtain ⟨c, hc, _⟩ := hcomplete.contents m hm
  exact ⟨c, hc⟩

/-- The modules of visits that succeed are those of the classes that they opened, as these convert on their own. -/
lemma Complete.mem_iff {classNames : List String} {o : VisitOutcome} {modules : List Module}
    (hcomplete : Complete answer classNames o modules) {m : Module} :
    m ∈ modules ↔ ∃ className ∈ o.reported, ∃ c, convertAnswer answer [] className = .ok c ∧ m = moduleOf c := by
  constructor
  · intro hm
    obtain ⟨c, hc, hmodule⟩ := hcomplete.contents m hm
    exact ⟨m.name, hcomplete.names.mem_iff.1 (List.mem_map_of_mem hm), c, hc, hmodule⟩
  · rintro ⟨className, hopened, c, hc, rfl⟩
    obtain ⟨m, hm, rfl⟩ := List.mem_map.1 (hcomplete.names.mem_iff.2 hopened)
    obtain ⟨c', hc', hmodule⟩ := hcomplete.contents m hm
    rw [hc] at hc'
    cases hc'
    exact hmodule ▸ hm

/-- Visits succeed just when all classes that are reached convert. -/
theorem VisitEach.ok_iff (hname : Faithful answer) {visited classNames : List String} {o : VisitOutcome}
    (h : VisitEach answer visited classNames o) :
    (∃ modules, o.result = .ok modules) ↔
      ∀ c ∈ classNames, c ∉ visited → ∀ d, Reaches answer visited c d → Converts answer d := by
  constructor
  · rintro ⟨modules, hresult⟩ c hc hfresh d hreach
    have hcomplete := h.complete hname hresult
    exact hcomplete.converts ((hcomplete.mem_reported_iff h).2 ⟨c, hc, hfresh, hreach⟩)
  · intro hall
    cases hresult : o.result with
    | ok modules => exact ⟨modules, rfl⟩
    | error e =>
      obtain ⟨d, hd, hfail⟩ := h.exists_not_converts hresult
      obtain ⟨c, hc, hfresh, hreach⟩ := h.reached d hd
      exact absurd (hall c hc hfresh d hreach) hfail

/-- What is reached stays within any names that are closed under the references of a table. -/
lemma mem_of_reaches {t : ClassTable} {names avoided : List String} {a b : String}
    (hclosed : ∀ p ∈ t.classes, ∀ c ∈ Conversion.referredBy p.2, c ∈ names) (ha : a ∈ names)
    (h : Reaches t.answer avoided a b) : b ∈ names := by
  induction h with
  | refl => exact ha
  | tail _ hstep _ =>
    obtain ⟨⟨info, hinfo, hrefers⟩, _⟩ := hstep
    exact hclosed _ (ClassTable.exists_of_answer hinfo) _ hrefers

variable {σ : Type} {known : List String}

/-- Generating the modules of a class succeeds just when all classes that it reaches outside the visited ones convert.
Then it gives one module for each of these classes, and they are visited besides those that were. -/
theorem generate_reachable (hknown : ∀ c info, answer c = .ok info → c ∈ known) (hname : Faithful answer)
    {root : String} (s : Session (Traversal σ)) (hroot : root ∉ s.state.context.visited) :
    ((∃ modules s', generate (Client.ofAnswers known answer) root s = .ok modules s') ↔
      ∀ c, Reaches answer s.state.context.visited root c → Converts answer c) ∧
    ∀ modules s', generate (Client.ofAnswers known answer) root s = .ok modules s' →
      (modules.map (·.name)).Nodup ∧
      (∀ c, c ∈ modules.map (·.name) ↔ Reaches answer s.state.context.visited root c) ∧
      ∀ c, c ∈ s'.state.context.visited ↔ c ∈ s.state.context.visited ∨ Reaches answer s.state.context.visited root c := by
  obtain ⟨o, hvisit⟩ := exists_visit hknown s.state.context.visited root
  have hagrees := generate_agrees hknown hvisit
  have heach := hvisit.each
  constructor
  · have hiff := heach.ok_iff hname
    simp only [List.mem_singleton, forall_eq, hroot, not_false_eq_true, forall_true_left] at hiff
    rw [← hiff]
    constructor
    · rintro ⟨modules, s', hs'⟩
      exact ⟨modules, (hs' ▸ hagrees).value.symm⟩
    · rintro ⟨modules, hresult⟩
      obtain ⟨s', hs', _⟩ := hagrees.eq_ok hresult
      exact ⟨modules, s', hs'⟩
  · intro modules s' hs'
    rw [hs'] at hagrees
    have hcomplete := heach.complete hname hagrees.value.symm
    have hreach : ∀ c, c ∈ o.reported ↔ Reaches answer s.state.context.visited root c := by
      intro c
      simpa [hroot] using hcomplete.mem_reported_iff heach (d := c)
    refine ⟨hcomplete.names.nodup_iff.2 heach.reported_nodup.1, fun c => ?_, fun c => ?_⟩
    · rw [hcomplete.names.mem_iff, hreach]
    · have hvisited : s'.state.context.visited = o.visited := hagrees.visited
      rw [hvisited, heach.mem_visited, hreach, or_comm]

theorem generate_reachable_diamond :
    (∀ c info, ClassTable.diamond.answer c = .ok info → c ∈ ClassTable.diamond.classes.map (·.1)) ∧
    Faithful ClassTable.diamond.answer ∧ "r.B" ∉ ["r.C"] ∧
    ∀ c, c ∈ ["r.A", "r.Root", "r.B"] ↔ Reaches ClassTable.diamond.answer ["r.C"] "r.B" c := by
  have hfaithful : Faithful ClassTable.diamond.answer := ClassTable.faithful_answer (by decide)
  have hnew : "r.B" ∉ ["r.C"] := by decide
  have hreachable := (generate_reachable ClassTable.mem_of_answer hfaithful ⟨⟨(), ⟨["r.C"], []⟩⟩, #[]⟩ hnew).2
  have hnames : (Action.valueOf (generate (Client.ofTable ClassTable.diamond) "r.B"
      ⟨⟨(), ⟨["r.C"], []⟩⟩, #[]⟩)).toOption.map (List.map Module.name) = some ["r.A", "r.Root", "r.B"] := by
    decide +kernel
  refine ⟨ClassTable.mem_of_answer, hfaithful, hnew, fun c => ?_⟩
  cases hrun : generate (Client.ofTable ClassTable.diamond) "r.B" ⟨⟨(), ⟨["r.C"], []⟩⟩, #[]⟩ with
  | error e s' => simp [hrun, Action.valueOf, Except.toOption] at hnames
  | ok modules s' =>
    simp only [hrun, Action.valueOf, Except.toOption, Option.map_some, Option.some.injEq] at hnames
    rw [← hnames]
    exact (hreachable modules s' hrun).2.1 c

/-! ## Requests in any order -/

/-- For the modules of several classes it matters only which classes these are. Given in another order, or some of them
several times, they succeed alike and give the same modules, each of them once. -/
theorem generateAll_perm_of_same_requests (hknown : ∀ c info, answer c = .ok info → c ∈ known) (hname : Faithful answer)
    {requests requests' : List String} (hsame : ∀ c, c ∈ requests ↔ c ∈ requests') (start start' : σ)
    (journal journal' : Array Event) :
    ((∃ modules s, generateAll (Client.ofAnswers known answer) requests ⟨⟨start, {}⟩, journal⟩ = .ok modules s) ↔
      ∃ modules s, generateAll (Client.ofAnswers known answer) requests' ⟨⟨start', {}⟩, journal'⟩ = .ok modules s) ∧
    ∀ modules s modules' s',
      generateAll (Client.ofAnswers known answer) requests ⟨⟨start, {}⟩, journal⟩ = .ok modules s →
      generateAll (Client.ofAnswers known answer) requests' ⟨⟨start', {}⟩, journal'⟩ = .ok modules' s' →
      modules.Perm modules' := by
  obtain ⟨o, hvisits⟩ := exists_visitEach hknown [] requests
  obtain ⟨o', hvisits'⟩ := exists_visitEach hknown [] requests'
  have hagrees := generateAll_agrees (s := ⟨⟨start, {}⟩, journal⟩) hknown hvisits
  have hagrees' := generateAll_agrees (s := ⟨⟨start', {}⟩, journal'⟩) hknown hvisits'
  constructor
  · rw [hagrees.succeeds_iff, hagrees'.succeeds_iff, hvisits.ok_iff hname, hvisits'.ok_iff hname]
    simp only [hsame]
  · intro modules s modules' s' hs hs'
    rw [hs] at hagrees
    rw [hs'] at hagrees'
    have hcomplete := hvisits.complete hname hagrees.value.symm
    have hcomplete' := hvisits'.complete hname hagrees'.value.symm
    have hopened : ∀ c, c ∈ o.reported ↔ c ∈ o'.reported := by
      intro c
      rw [hcomplete.mem_reported_iff hvisits, hcomplete'.mem_reported_iff hvisits']
      simp only [hsame]
    have hnodup := (hcomplete.names.nodup_iff.2 hvisits.reported_nodup.1).of_map
    have hnodup' := (hcomplete'.names.nodup_iff.2 hvisits'.reported_nodup.1).of_map
    rw [List.perm_ext_iff_of_nodup hnodup hnodup']
    intro m
    rw [hcomplete.mem_iff, hcomplete'.mem_iff]
    simp only [hopened]

theorem generateAll_perm_of_same_requests_diamond :
    (∀ c info, ClassTable.diamond.answer c = .ok info → c ∈ ClassTable.diamond.classes.map (·.1)) ∧
    Faithful ClassTable.diamond.answer ∧ (∀ c, c ∈ ["r.B", "r.Root"] ↔ c ∈ ["r.Root", "r.B", "r.Root"]) ∧
    ∃ modules modules' : List Module, modules.Perm modules' ∧
      modules.map (·.name) = ["r.C", "r.A", "r.Root", "r.B"] ∧
      modules'.map (·.name) = ["r.C", "r.A", "r.B", "r.Root"] := by
  have hfaithful : Faithful ClassTable.diamond.answer := ClassTable.faithful_answer (by decide)
  have hsame : ∀ c, c ∈ ["r.B", "r.Root"] ↔ c ∈ ["r.Root", "r.B", "r.Root"] := by
    intro c
    simp only [List.mem_cons, List.not_mem_nil, or_false]
    tauto
  have hfirst : (Action.valueOf (generateAll (Client.ofTable ClassTable.diamond) ["r.B", "r.Root"]
      ⟨⟨(), {}⟩, #[]⟩)).toOption.map (List.map Module.name) = some ["r.C", "r.A", "r.Root", "r.B"] := by
    decide +kernel
  have hsecond : (Action.valueOf (generateAll (Client.ofTable ClassTable.diamond) ["r.Root", "r.B", "r.Root"]
      ⟨⟨(), {}⟩, #[]⟩)).toOption.map (List.map Module.name) = some ["r.C", "r.A", "r.B", "r.Root"] := by
    decide +kernel
  refine ⟨ClassTable.mem_of_answer, hfaithful, hsame, ?_⟩
  have hperm := (generateAll_perm_of_same_requests ClassTable.mem_of_answer hfaithful hsame () () #[] #[]).2
  cases hrun : generateAll (Client.ofTable ClassTable.diamond) ["r.B", "r.Root"] ⟨⟨(), {}⟩, #[]⟩ with
  | error e s => simp [hrun, Action.valueOf, Except.toOption] at hfirst
  | ok modules s =>
    cases hrun' : generateAll (Client.ofTable ClassTable.diamond) ["r.Root", "r.B", "r.Root"] ⟨⟨(), {}⟩, #[]⟩ with
    | error e s' => simp [hrun', Action.valueOf, Except.toOption] at hsecond
    | ok modules' s' =>
      simp only [hrun, Action.valueOf, Except.toOption, Option.map_some, Option.some.injEq] at hfirst
      simp only [hrun', Action.valueOf, Except.toOption, Option.map_some, Option.some.injEq] at hsecond
      exact ⟨modules, modules', hperm modules s modules' s' hrun hrun', hfirst, hsecond⟩

end Typings.Traversal
