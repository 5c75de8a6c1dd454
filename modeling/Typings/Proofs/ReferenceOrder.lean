import Typings.Proofs.Reachability

/-!
# The order of modules

Modules come after those that they refer to. The only exceptions are on cycles: a class that was opened but not finished
when another one refers to it is still waiting for that other class, so it leads to it.
-/

namespace Typings.Traversal

variable {answer : String → Except LoadError Java.ClassInfo}

/-- The name `a` stands before the name `b`. -/
def Before (a b : String) (names : List String) : Prop :=
  ∃ front back, names = front ++ back ∧ a ∈ front ∧ b ∈ back

lemma Before.append_left {a b : String} {names : List String} (h : Before a b names) (front : List String) :
    Before a b (front ++ names) := by
  obtain ⟨front', back, rfl, ha, hb⟩ := h
  exact ⟨front ++ front', back, (List.append_assoc _ _ _).symm, List.mem_append_right _ ha, hb⟩

lemma Before.append_right {a b : String} {names : List String} (h : Before a b names) (back : List String) :
    Before a b (names ++ back) := by
  obtain ⟨front, back', rfl, ha, hb⟩ := h
  exact ⟨front, back' ++ back, List.append_assoc _ _ _, ha, List.mem_append_left _ hb⟩

/-- What a module of a walk may refer to: a class that was visited before, a module in front of it, or a class that
leads back to its own. -/
def Settles (answer : String → Except LoadError Java.ClassInfo) (visited names : List String) : Prop :=
  ∀ a ∈ names, ∀ b, Refers answer a b → b ≠ a → b ∈ visited ∨ Before b a names ∨ Reaches answer [] b a

/-- The modules below a class and its own, with the modules that follow. -/
lemma Settles.append {visited below later opened : List String} {className : String}
    (hbelow : Settles answer (className :: visited) below)
    (hclass : ∀ b, Refers answer className b → b ∈ className :: visited ∨ b ∈ below)
    (hreach : ∀ a ∈ below, Reaches answer [] className a) (hopened : ∀ b ∈ opened, b ∈ below ∨ b ∈ className :: visited)
    (hlater : Settles answer opened later) : Settles answer visited (below ++ [className] ++ later) := by
  intro a ha b hab hne
  simp only [List.mem_append, List.mem_singleton] at ha
  rcases ha with (hin | rfl) | hin
  · rcases hbelow a hin b hab hne with hb | hb | hb
    · rcases List.mem_cons.1 hb with rfl | hb
      · exact .inr (.inr (hreach a hin))
      · exact .inl hb
    · exact .inr (.inl ((hb.append_right _).append_right _))
    · exact .inr (.inr hb)
  · rcases hclass b hab with hb | hb
    · exact .inl ((List.mem_cons.1 hb).resolve_left hne)
    · exact .inr (.inl (Before.append_right ⟨below, [a], rfl, hb, List.mem_singleton_self a⟩ later))
  · rcases hlater a hin b hab hne with hb | hb | hb
    · rcases hopened b hb with hb | hb
      · exact .inr (.inl ⟨below ++ [className], later, rfl, List.mem_append_left _ hb, hin⟩)
      · rcases List.mem_cons.1 hb with rfl | hb
        · exact .inr (.inl ⟨below ++ [b], later, rfl, by simp, hin⟩)
        · exact .inl hb
    · exact .inr (.inl (hb.append_left _))
    · exact .inr (.inr hb)

theorem VisitEach.settles (hname : Faithful answer) {visited classNames : List String} {o : VisitOutcome}
    (h : VisitEach answer visited classNames o) {modules : List Module} (hresult : o.result = .ok modules) :
    Settles answer visited (modules.map (·.name)) := by
  refine VisitEach.induct
    (motive := fun visited _ o => ∀ modules, o.result = .ok modules → Settles answer visited (modules.map (·.name)))
    ?nil ?seen ?failed ?stopped ?converted h modules hresult
  case nil =>
    intro visited modules hresult
    cases hresult
    simp [Settles]
  case seen => exact fun _ _ ih => ih
  case failed => exact fun _ _ _ hresult => nomatch hresult
  case stopped => exact fun _ _ _ _ _ _ hresult => nomatch hresult
  case converted =>
    intro visited className classNames c below o next hc hok hbelow hresult ih hnext ihnext modules hmodules
    obtain ⟨more, hmore, rfl⟩ := map_eq_ok hmodules
    have hcomplete := hbelow.complete hname hresult
    have hmem : ∀ a, a ∈ below.map (·.name) ↔ a ∈ o.reported := fun a => hcomplete.names.mem_iff
    have hopened : ∀ b ∈ o.visited, b ∈ below.map (·.name) ∨ b ∈ className :: visited := by
      intro b hb
      rw [hmem]
      exact hbelow.mem_visited.1 hb
    have hclass : ∀ b, Refers answer className b → b ∈ className :: visited ∨ b ∈ below.map (·.name) := by
      intro b hb
      by_cases hv : b ∈ className :: visited
      · exact .inl hv
      · exact (hopened b (hcomplete.requested b ((mem_unresolved hok).2 ⟨hb, hv⟩))).symm
    have hreach : ∀ a ∈ below.map (·.name), Reaches answer [] className a := by
      intro a ha
      have hfrom := reaches_of_below hok hbelow.reached (List.mem_cons_of_mem _ ((hmem a).1 ha))
      exact hfrom.mono (List.nil_subset _)
    simp only [List.map_append, List.map_cons, List.map_nil, moduleOf_name hname hok]
    exact (ih below hresult).append hclass hreach hopened (ihnext more hmore)

variable {σ : Type} {known : List String}

/-- The order of the modules of one call. -/
structure Ordered (answer : String → Except LoadError Java.ClassInfo) (names : List String) : Prop where
  nodup : names.Nodup
  before : ∀ a ∈ names, ∀ b ∈ names, Refers answer a b → b ≠ a → Before b a names ∨ Reaches answer [] b a

lemma VisitEach.ordered (hname : Faithful answer) {visited classNames : List String} {o : VisitOutcome}
    (h : VisitEach answer visited classNames o) {modules : List Module} (hresult : o.result = .ok modules) :
    Ordered answer (modules.map (·.name)) := by
  have hnames := (h.complete hname hresult).names
  obtain ⟨hnodup, hfresh⟩ := h.reported_nodup
  refine ⟨hnames.nodup_iff.2 hnodup, fun a ha b hb hab hne => ?_⟩
  exact (h.settles hname hresult a ha b hab hne).resolve_left (hfresh b (hnames.mem_iff.1 hb))

/-- Among the modules that a successful call gives, a class that another one refers to comes before it, unless it leads
back to it. Without cycles every class comes after all that it refers to. -/
theorem modules_after_references (hknown : ∀ c info, answer c = .ok info → c ∈ known) (hname : Faithful answer)
    (s : Session (Traversal σ)) {modules : List Module}
    (h : (∃ className s', generate (Client.ofAnswers known answer) className s = .ok modules s') ∨
      ∃ classNames s', generateAll (Client.ofAnswers known answer) classNames s = .ok modules s') :
    Ordered answer (modules.map (·.name)) ∧
    ((∀ a b, Reaches answer [] a b → Reaches answer [] b a → a = b) →
      ∀ a ∈ modules.map (·.name), ∀ b ∈ modules.map (·.name), Refers answer a b → b ≠ a →
        Before b a (modules.map (·.name))) := by
  have hordered : Ordered answer (modules.map (·.name)) := by
    rcases h with ⟨className, s', hs'⟩ | ⟨classNames, s', hs'⟩
    · obtain ⟨o, hvisit⟩ := exists_visit hknown s.state.context.visited className
      have hagrees := generate_agrees hknown hvisit
      exact hvisit.each.ordered hname (hs' ▸ hagrees).value.symm
    · obtain ⟨o, hvisits⟩ := exists_visitEach hknown s.state.context.visited classNames
      have hagrees := generateAll_agrees hknown hvisits
      exact hvisits.ordered hname (hs' ▸ hagrees).value.symm
  refine ⟨hordered, fun hacyclic a ha b hb hab hne => ?_⟩
  refine (hordered.before a ha b hb hab hne).resolve_right fun hba => hne ?_
  exact hacyclic b a hba (Reaches.head hab List.not_mem_nil .refl)

theorem modules_after_references_diamond :
    (∀ c info, ClassTable.diamond.answer c = .ok info → c ∈ ClassTable.diamond.classes.map (·.1)) ∧
    Faithful ClassTable.diamond.answer ∧ Ordered ClassTable.diamond.answer ["r.C", "r.A", "r.Root", "r.B"] := by
  have hfaithful : Faithful ClassTable.diamond.answer := ClassTable.faithful_answer (by decide)
  have hnames : (Action.valueOf (generateAll (Client.ofTable ClassTable.diamond) ["r.B", "r.Root"]
      ⟨⟨(), {}⟩, #[]⟩)).toOption.map (List.map Module.name) = some ["r.C", "r.A", "r.Root", "r.B"] := by
    decide +kernel
  refine ⟨ClassTable.mem_of_answer, hfaithful, ?_⟩
  cases hrun : generateAll (Client.ofTable ClassTable.diamond) ["r.B", "r.Root"] ⟨⟨(), {}⟩, #[]⟩ with
  | error e s' => simp [hrun, Action.valueOf, Except.toOption] at hnames
  | ok modules s' =>
    simp only [hrun, Action.valueOf, Except.toOption, Option.map_some, Option.some.injEq] at hnames
    rw [← hnames]
    exact (modules_after_references ClassTable.mem_of_answer hfaithful ⟨⟨(), {}⟩, #[]⟩ (.inr ⟨_, s', hrun⟩)).1

end Typings.Traversal
