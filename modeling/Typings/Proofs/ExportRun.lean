import Typings.Export
import Typings.Proofs.Reachability
import Typings.Proofs.SavedModules

/-!
# What an export leaves on disk

An export into an empty directory visits its classes one after the other and saves what each visit gives. The classes
whose modules it saves are those that are reached from the classes before the first failure, so that whatever a saved
module imports is saved as well.
-/

namespace Typings

open Traversal Files

variable {answer : String → Except LoadError Java.ClassInfo} {σ : Type} {known : List String} {output : Path}

/-! ## One class after the other -/

section Steps

variable {client : Client σ} {className : String} {s : Session (Workspace σ)}

lemma exportClass_ok {modules : List Module} {s₁ : Session (Traversal σ)} {paths : List Path} {files : FileTree}
    (hgenerate : generate client className ⟨s.state.traversal, s.journal⟩ = .ok modules s₁)
    (hsave : saveModules output modules s.state.files = .ok paths files) :
    ∃ s', exportClass client output className s = .ok modules.length s' ∧ s'.state = ⟨s₁.state, files⟩ := by
  have hpart : Action.withError ExportError.generation (Action.onPart (·.traversal)
      (fun traversal w => { w with traversal := traversal }) (generate client className)) s =
        .ok modules ⟨⟨s₁.state, s.state.files⟩, s₁.journal⟩ := by
    simp only [Action.withError, Action.onPart, hgenerate]
  simp only [exportClass, bind, EStateM.bind, hpart, get_eq, hsave]
  exact ⟨_, rfl, rfl⟩

lemma exportClass_error (output : Path) {e : GenerationError} {s₁ : Session (Traversal σ)}
    (hgenerate : generate client className ⟨s.state.traversal, s.journal⟩ = .error e s₁) :
    ∃ s', exportClass client output className s = .error (.generation e) s' ∧ s'.state.files = s.state.files := by
  have hpart : Action.withError ExportError.generation (Action.onPart (·.traversal)
      (fun traversal w => { w with traversal := traversal }) (generate client className)) s =
        .error (.generation e) ⟨⟨s₁.state, s.state.files⟩, s₁.journal⟩ := by
    simp only [Action.withError, Action.onPart, hgenerate]
  simp only [exportClass, bind, EStateM.bind, hpart]
  exact ⟨_, rfl, rfl⟩

lemma exportClasses_ok {classNames : List String} {counts : List Nat} {s' : Session (Workspace σ)}
    (hrun : classNames.mapM (exportClass client output) s = .ok counts s') :
    ∃ s'', exportClasses client output classNames s = .ok (counts.foldl (· + ·) 0) s'' ∧ s''.state = s'.state := by
  unfold exportClasses
  simp only [bind, EStateM.bind, hrun]
  exact ⟨_, rfl, rfl⟩

lemma exportClasses_error {classNames : List String} {e : ExportError} {s' : Session (Workspace σ)}
    (hrun : classNames.mapM (exportClass client output) s = .error e s') :
    exportClasses client output classNames s = .error e s' := by
  unfold exportClasses
  simp only [bind, EStateM.bind, hrun]

end Steps

/-- What an export into an empty directory has come to after the given classes: visits to them have succeeded, and the
directory holds their modules. -/
structure Progress (answer : String → Except LoadError Java.ClassInfo) (output : Path) (classNames visited : List String)
    (modules : List Module) (files : FileTree) : Prop where
  visits : ∃ reported asked, VisitEach answer [] classNames ⟨.ok modules, visited, reported, asked⟩
  holds : ∃ l names, files.Holds output l names modules

variable {classNames visited : List String} {modules more : List Module} {files : FileTree}

lemma Progress.nodup (hname : Faithful answer) (h : Progress answer output classNames visited modules files) :
    (modules.map (·.name)).Nodup := by
  obtain ⟨reported, asked, hvisits⟩ := h.visits
  have hcomplete := hvisits.complete hname rfl
  exact hcomplete.names.nodup_iff.2 hvisits.reported_nodup.1

/-- The modules of one more class can be saved. -/
lemma Progress.step (hname : Faithful answer) (h : Progress answer output classNames visited modules files)
    {className : String} {o : VisitOutcome} (hvisit : Visit answer visited className o) (hresult : o.result = .ok more)
    (hstorable : ∀ c, Reaches answer [] className c → IsStorable c) :
    ∃ paths files', saveModules output more files = .ok paths files' ∧
      Progress answer output (classNames ++ [className]) o.visited (modules ++ more) files' := by
  obtain ⟨reported, asked, hvisits⟩ := h.visits
  obtain ⟨l, names, hholds⟩ := h.holds
  have heach := hvisit.each
  have hall := hvisits.append rfl heach
  rw [hresult] at hall
  have hreached : ∀ m ∈ more, IsStorable m.name := by
    intro m hm
    have hmem : m.name ∈ o.reported := (heach.complete hname hresult).names.mem_iff.1 (List.mem_map_of_mem hm)
    exact hstorable _ (hvisit.reached hmem)
  have hnodup : ((modules ++ more).map (·.name)).Nodup :=
    (hall.complete hname rfl).names.nodup_iff.2 hall.reported_nodup.1
  obtain ⟨files', hsave, hmore⟩ := saveModules_holds hholds hreached fun m hm other hother heq =>
    List.inj_on_of_nodup_map hnodup hother hm heq
  exact ⟨_, files', hsave, ⟨_, _, hall⟩, l, names, hmore⟩

/-- An export gets through all classes, or up to the first one that leads to a class that cannot be had. -/
theorem exportEach_progress (hknown : ∀ c info, answer c = .ok info → c ∈ known) (hname : Faithful answer)
    {roots : List String} (hstorable : ∀ r ∈ roots, ∀ c, Reaches answer [] r c → IsStorable c)
    {s : Session (Workspace σ)}
    (h : Progress answer output classNames s.state.traversal.context.visited modules s.state.files) :
    (∃ counts s' more, roots.mapM (exportClass (Client.ofAnswers known answer) output) s = .ok counts s' ∧
      Progress answer output (classNames ++ roots) s'.state.traversal.context.visited (modules ++ more) s'.state.files ∧
      counts.foldl (· + ·) modules.length = (modules ++ more).length) ∨
    ∃ cause s' before k after visited more,
      roots.mapM (exportClass (Client.ofAnswers known answer) output) s = .error (.generation cause) s' ∧
      roots = before ++ k :: after ∧
      Progress answer output (classNames ++ before) visited (modules ++ more) s'.state.files ∧
      ∃ c, Reaches answer [] k c ∧ ¬Converts answer c := by
  induction roots generalizing classNames modules s with
  | nil => exact .inl ⟨[], s, [], rfl, by simpa using h, by simp⟩
  | cons k roots ih =>
    obtain ⟨o, hvisit⟩ := exists_visit hknown s.state.traversal.context.visited k
    have hagrees := generate_agrees (s := ⟨s.state.traversal, s.journal⟩) hknown hvisit
    cases hresult : o.result with
    | error e =>
      obtain ⟨s₁, hgenerate, _⟩ := hagrees.eq_error hresult
      -- A walk that fails leaves its frames behind, but it has written nothing.
      obtain ⟨s', hstep, hfiles⟩ := exportClass_error output hgenerate
      obtain ⟨c, hc, hfail⟩ := hvisit.each.exists_not_converts hresult
      refine .inr ⟨e, s', [], k, roots, s.state.traversal.context.visited, [], mapM_cons_stopped hstep, rfl, ?_, c,
        hvisit.reached hc, hfail⟩
      simpa [hfiles] using h
    | ok first =>
      obtain ⟨s₁, hgenerate, hgenerated⟩ := hagrees.eq_ok hresult
      obtain ⟨paths, files', hsave, hnext⟩ := h.step hname hvisit hresult (hstorable k List.mem_cons_self)
      obtain ⟨s', hstep, hstate⟩ := exportClass_ok hgenerate hsave
      have hvisited : s'.state.traversal.context.visited = o.visited := by
        rw [hstate]
        exact hgenerated.visited
      have hfiles : s'.state.files = files' := by rw [hstate]
      rw [← hvisited, ← hfiles] at hnext
      rcases ih (fun r hr => hstorable r (List.mem_cons_of_mem _ hr)) hnext with
        ⟨counts, s'', more, hrun, hall, hcount⟩ | ⟨cause, s'', before, k', after, visited, more, hrun, hsplit, hall, hfail⟩
      · exact .inl ⟨first.length :: counts, s'', first ++ more, mapM_cons_ok hstep hrun, by simpa using hall,
          by simpa using hcount⟩
      · exact .inr ⟨cause, s'', k :: before, k', after, visited, first ++ more, mapM_cons_error hstep hrun,
          by rw [hsplit]; rfl, by simpa using hall, hfail⟩

/-! ## The files of an export -/

/-- References lead to the class from one of the given ones. -/
def ReachedFrom (answer : String → Except LoadError Java.ClassInfo) (classNames : List String) (className : String) :
    Prop :=
  ∃ c ∈ classNames, Reaches answer [] c className

/-- The files in the output directory are the modules of the classes that are reached from the given ones, and each is
found by the path of its class. -/
structure HoldsReached (answer : String → Except LoadError Java.ClassInfo) (classNames : List String) (output : Path)
    (files : FileTree) : Prop where
  converts : ∀ className, ReachedFrom answer classNames className → Converts answer className
  once : ((files.filesBelow output).map (·.1)).Nodup
  file : ∀ names bytes, (names, bytes) ∈ files.filesBelow output ↔
    ∃ className c, ReachedFrom answer classNames className ∧ convertAnswer answer [] className = .ok c ∧
      names = moduleNames className ∧ bytes = c.contents.toUTF8
  read : ∀ className c, ReachedFrom answer classNames className → convertAnswer answer [] className = .ok c →
    files.read (modulePath output className) = .ok c.contents.toUTF8

/-- The module of the class has its file in the output directory. -/
def IsSaved (output : Path) (files : FileTree) (className : String) : Prop :=
  ∃ bytes, (moduleNames className, bytes) ∈ files.filesBelow output

/-- A saved module imports, apart from the runtime, saved modules only, and it does so by their place relative to its
directory, as far as no saved class lies below another one. -/
def ImportsSaved (answer : String → Except LoadError Java.ClassInfo) (output : Path) (files : FileTree) : Prop :=
  ∀ className c i, IsSaved output files className → convertAnswer answer [] className = .ok c →
    .importNames i ∈ c.statements →
    i = Conversion.runtimeImport c.references.usesBasicType ∨
    ∃ imported,
      i = { specifiers := [{ name := Java.simpleName imported, alias? := some (Java.flatName imported) }]
            source := Conversion.moduleSpecifier className imported } ∧
      IsSaved output files imported ∧
      ((∀ a b, IsSaved output files a → IsSaved output files b → Java.segments a <+: Java.segments b → a = b) →
        ∃ names, Conversion.follow (moduleNames className).dropLast i.source = some names ∧
          withExtension names = moduleNames imported)

lemma Progress.mem_modules_iff (hname : Faithful answer) (h : Progress answer output classNames visited modules files)
    {className : String} : className ∈ modules.map (·.name) ↔ ReachedFrom answer classNames className := by
  obtain ⟨reported, asked, hvisits⟩ := h.visits
  have hcomplete := hvisits.complete hname rfl
  rw [hcomplete.names.mem_iff, hcomplete.mem_reported_iff hvisits]
  simp [ReachedFrom]

lemma Progress.exists_module (hname : Faithful answer) (h : Progress answer output classNames visited modules files)
    {className : String} {c : Conversion.Converted} (hreached : ReachedFrom answer classNames className)
    (hc : convertAnswer answer [] className = .ok c) :
    ∃ m ∈ modules, m.name = className ∧ m.contents = c.contents := by
  obtain ⟨m, hm, rfl⟩ := List.mem_map.1 ((h.mem_modules_iff hname).2 hreached)
  obtain ⟨reported, asked, hvisits⟩ := h.visits
  obtain ⟨c', hc', hmodule⟩ := (hvisits.complete hname rfl).contents m hm
  rw [hc] at hc'
  cases hc'
  exact ⟨m, hm, rfl, congrArg Module.contents hmodule⟩

lemma Progress.holdsReached (hname : Faithful answer) (h : Progress answer output classNames visited modules files)
    (hstorable : ∀ c, ReachedFrom answer classNames c → IsStorable c) : HoldsReached answer classNames output files := by
  obtain ⟨reported, asked, hvisits⟩ := h.visits
  obtain ⟨l, names, hholds⟩ := h.holds
  have hcomplete := hvisits.complete hname rfl
  have hnodup := h.nodup hname
  refine ⟨fun className hreached => ?_, ?_, fun names' bytes => ?_, fun className c hreached hc => ?_⟩
  · have hmem := (h.mem_modules_iff hname).2 hreached
    exact hcomplete.converts (hcomplete.names.mem_iff.1 hmem)
  · rw [((hholds.filesBelow_perm hnodup).map _).nodup_iff]
    have hmap := hnodup.map (f := moduleNames) fun _ _ => moduleNames_injective
    simpa [Function.comp_def] using hmap
  · rw [hholds.mem_filesBelow]
    constructor
    · rintro ⟨m, hm, rfl, rfl⟩
      obtain ⟨c, hc, hmodule⟩ := hcomplete.contents m hm
      refine ⟨m.name, c, (h.mem_modules_iff hname).1 (List.mem_map_of_mem hm), hc, rfl, ?_⟩
      rw [hmodule]
      rfl
    · rintro ⟨className, c, hreached, hc, rfl, rfl⟩
      obtain ⟨m, hm, hmodule, hcontents⟩ := h.exists_module hname hreached hc
      exact ⟨m, hm, by rw [hmodule], by rw [hcontents]⟩
  · obtain ⟨m, hm, rfl, hcontents⟩ := h.exists_module hname hreached hc
    rw [hholds.read hm (hstorable _ hreached), hcontents]

lemma HoldsReached.isSaved_iff (h : HoldsReached answer classNames output files) {className : String} :
    IsSaved output files className ↔ ReachedFrom answer classNames className := by
  constructor
  · rintro ⟨bytes, hmem⟩
    obtain ⟨other, c, hreached, _, hnames, _⟩ := (h.file _ _).1 hmem
    rwa [moduleNames_injective hnames]
  · intro hreached
    obtain ⟨c, hc⟩ := h.converts className hreached
    exact ⟨c.contents.toUTF8, (h.file _ _).2 ⟨className, c, hreached, hc, rfl, rfl⟩⟩

/-- What is reached is closed under references, hence the imports of saved modules are saved. -/
lemma HoldsReached.importsSaved (hname : Faithful answer) (h : HoldsReached answer classNames output files)
    (hstorable : ∀ c, ReachedFrom answer classNames c → IsStorable c) : ImportsSaved answer output files := by
  intro className c i hsaved hc hi
  have hreached := h.isSaved_iff.1 hsaved
  obtain ⟨hinfo, hall, _⟩ := convertAnswer_ok hc
  have hclass : c.info.name = className := moduleOf_name hname hc
  simp only [Conversion.Converted.statements, List.mem_append, List.mem_cons, List.mem_map, reduceCtorEq, List.not_mem_nil,
    or_false, TypeScript.Statement.importNames.injEq, exists_eq_right] at hi
  rcases hi with rfl | hi
  · exact .inl rfl
  · refine .inr ?_
    obtain ⟨imported, himported, rfl⟩ := List.mem_map.1 hi
    rw [List.mem_filter, hall, decide_eq_true_eq, hclass] at himported
    obtain ⟨hrefers, hne⟩ := himported
    have hthere : ReachedFrom answer classNames imported := by
      obtain ⟨r, hr, hreach⟩ := hreached
      exact ⟨r, hr, hreach.tail ⟨⟨c.info, hinfo, hrefers⟩, List.not_mem_nil⟩⟩
    have hsaved' := h.isSaved_iff.2 hthere
    refine ⟨imported, by rw [hclass], hsaved', fun hapart => ⟨Java.segments imported, ?_, rfl⟩⟩
    rw [dropLast_moduleNames, hclass]
    apply Conversion.follow_moduleSpecifier (hstorable imported hthere).isClassName
    · exact fun hup => hne (hapart _ _ hsaved hsaved' hup).symm
    · exact fun hdown => hne (hapart _ _ hsaved' hsaved hdown)

/-- An export into an empty directory either gets through, and then the directory holds the modules of all classes that
are reached, or it stops at the first class that leads to one that cannot be had, and then it holds those reached from
the classes before. In both cases whatever a saved module imports is saved. -/
theorem exportClasses_saves_reached (hknown : ∀ c info, answer c = .ok info → c ∈ known) (hname : Faithful answer)
    {roots : List String} {files : FileTree} (hvacant : files.IsVacant output)
    (hstorable : ∀ c, ReachedFrom answer roots c → IsStorable c) (start : σ) (journal : Array Event) :
    (∀ n s', exportClasses (Client.ofAnswers known answer) output roots ⟨⟨⟨start, {}⟩, files⟩, journal⟩ = .ok n s' →
      HoldsReached answer roots output s'.state.files ∧ ImportsSaved answer output s'.state.files ∧
        n = (s'.state.files.filesBelow output).length) ∧
    ∀ e s', exportClasses (Client.ofAnswers known answer) output roots ⟨⟨⟨start, {}⟩, files⟩, journal⟩ = .error e s' →
      ∃ cause before k after, e = .generation cause ∧ roots = before ++ k :: after ∧
        (∃ c, Reaches answer [] k c ∧ ¬Converts answer c) ∧
        HoldsReached answer before output s'.state.files ∧ ImportsSaved answer output s'.state.files := by
  have hstart : Progress answer output [] [] [] files := ⟨⟨[], [], .nil⟩, hvacant.holds⟩
  have hreached : ∀ r ∈ roots, ∀ c, Reaches answer [] r c → IsStorable c := fun r hr c hreach =>
    hstorable c ⟨r, hr, hreach⟩
  rcases exportEach_progress hknown hname hreached (s := ⟨⟨⟨start, {}⟩, files⟩, journal⟩) hstart with
    ⟨counts, s₁, more, hrun, hall, hcount⟩ | ⟨cause, s₁, before, k, after, visited, more, hrun, rfl, hall, hfail⟩
  · obtain ⟨s₂, hexport, hstate⟩ := exportClasses_ok hrun
    rw [hexport]
    refine ⟨fun n s' hs' => ?_, fun e s' hs' => (by cases hs')⟩
    cases hs'
    rw [hstate]
    have hholds := hall.holdsReached hname hstorable
    obtain ⟨l, names, hfiles⟩ := hall.holds
    refine ⟨hholds, hholds.importsSaved hname hstorable, ?_⟩
    rw [(hfiles.filesBelow_perm (hall.nodup hname)).length_eq, List.length_map]
    exact hcount
  · rw [exportClasses_error hrun]
    refine ⟨fun n s' hs' => (by cases hs'), fun e s' hs' => ?_⟩
    cases hs'
    have hbefore : ∀ c, ReachedFrom answer before c → IsStorable c := by
      rintro c ⟨r, hr, hreach⟩
      exact hstorable c ⟨r, List.mem_append_left _ hr, hreach⟩
    have hholds := hall.holdsReached hname hbefore
    exact ⟨cause, before, k, after, rfl, rfl, hfail, hholds, hholds.importsSaved hname hbefore⟩

theorem exportClasses_saves_reached_diamond :
    (∀ c info, ClassTable.diamond.answer c = .ok info → c ∈ ClassTable.diamond.classes.map (·.1)) ∧
    Faithful ClassTable.diamond.answer ∧ (FileTree.ofEntries ["work"] []).IsVacant ⟨.here, ["out"]⟩ ∧
    (∀ c, ReachedFrom ClassTable.diamond.answer ["r.A", "r.Root"] c → IsStorable c) ∧
    ∃ s', exportClasses (Client.ofTable ClassTable.diamond) ⟨.here, ["out"]⟩ ["r.A", "r.Root"]
        ⟨⟨⟨(), {}⟩, .ofEntries ["work"] []⟩, #[]⟩ = .ok 4 s' ∧
      HoldsReached ClassTable.diamond.answer ["r.A", "r.Root"] ⟨.here, ["out"]⟩ s'.state.files ∧
      ImportsSaved ClassTable.diamond.answer ⟨.here, ["out"]⟩ s'.state.files := by
  have hfaithful : Faithful ClassTable.diamond.answer := ClassTable.faithful_answer (by decide)
  have hvacant : (FileTree.ofEntries ["work"] []).IsVacant ⟨.here, ["out"]⟩ := by
    refine ⟨["work"], ["out"], ⟨⟨[], rfl, rfl⟩, rfl, ?_, by simp⟩, fun more hmore _ => ?_⟩
    · simpa using ⟨by decide, by decide⟩
    · cases more with
      | nil => exact absurd rfl hmore
      | cons name more => rfl
  have hstorable : ∀ c, ReachedFrom ClassTable.diamond.answer ["r.A", "r.Root"] c → IsStorable c := by
    have hroots : ∀ r ∈ ["r.A", "r.Root"], r ∈ ClassTable.diamond.classes.map (·.1) := by decide
    have hclosed : ∀ p ∈ ClassTable.diamond.classes, ∀ b ∈ Conversion.referredBy p.2,
        b ∈ ClassTable.diamond.classes.map (·.1) := by decide +kernel
    have hlimits : ∀ c ∈ ClassTable.diamond.classes.map (·.1),
        Java.isClassName c = true ∧ ∀ name ∈ moduleNames c, name.utf8ByteSize ≤ nameLimit := by decide +kernel
    rintro c ⟨r, hr, hreach⟩
    obtain ⟨hname, hshort⟩ := hlimits c (mem_of_reaches hclosed (hroots r hr) hreach)
    exact ⟨hname, hshort⟩
  have hcount : (Action.valueOf (exportClasses (Client.ofTable ClassTable.diamond) ⟨.here, ["out"]⟩ ["r.A", "r.Root"]
      ⟨⟨⟨(), {}⟩, .ofEntries ["work"] []⟩, #[]⟩)).toOption = some 4 := by
    decide +kernel
  refine ⟨ClassTable.mem_of_answer, hfaithful, hvacant, hstorable, ?_⟩
  have hsaved := (exportClasses_saves_reached ClassTable.mem_of_answer hfaithful hvacant hstorable () #[]).1
  cases hrun : exportClasses (Client.ofTable ClassTable.diamond) ⟨.here, ["out"]⟩ ["r.A", "r.Root"]
      ⟨⟨⟨(), {}⟩, .ofEntries ["work"] []⟩, #[]⟩ with
  | error e s' => simp [hrun, Action.valueOf, Except.toOption] at hcount
  | ok n s' =>
    simp only [hrun, Action.valueOf, Except.toOption, Option.some.injEq] at hcount
    subst hcount
    obtain ⟨hholds, himports, _⟩ := hsaved _ s' hrun
    exact ⟨s', rfl, hholds, himports⟩

end Typings
