import Mathlib.Data.List.Basic
import Typings.Traversal

/-!
# Visiting classes recursively

The recursive account of a walk. A class that was visited before comes to nothing. Any other class is marked as
visited, reported, asked for and converted; then each class it refers to is visited in turn, and its own module comes
after theirs. Every visit comes to exactly one end if finitely many classes are known.
-/

namespace Typings.Traversal

/-- The module of a converted class. -/
def moduleOf (c : Conversion.Converted) : Module :=
  ⟨c.info.name, c.contents⟩

/-- Each class is reported under the name that was asked for. -/
def Faithful (answer : String → Except LoadError Java.ClassInfo) : Prop :=
  ∀ className info, answer className = .ok info → info.name = className

/-- What a visit comes to: its modules or the cause of its failure, the classes that are visited by then, and the
classes that it reported and asked for, in this order. -/
structure VisitOutcome where
  result : Except GenerationError (List Module)
  visited : List String
  reported : List String
  asked : List String

variable (answer : String → Except LoadError Java.ClassInfo)

/-- The conversion of a class while the classes in `visited` are resolved. -/
def convertAnswer (visited : List String) (className : String) : Except GenerationError Conversion.Converted :=
  match answer className with
  | .error e => .error (.load e)
  | .ok info => (Conversion.convertClass info visited).mapError .unsupported

mutual

/-- `Visit answer visited className o`: a visit to the class comes to `o`. -/
inductive Visit : List String → String → VisitOutcome → Prop
  | seen {visited className} :
    className ∈ visited → Visit visited className ⟨.ok [], visited, [], []⟩
  | failed {visited className e} :
    className ∉ visited → convertAnswer answer (className :: visited) className = .error e →
    Visit visited className ⟨.error e, className :: visited, [className], [className]⟩
  | converted {visited className c o} :
    className ∉ visited → convertAnswer answer (className :: visited) className = .ok c →
    VisitEach (className :: visited) c.references.unresolved o →
    Visit visited className
      ⟨o.result.map (· ++ [moduleOf c]), o.visited, className :: o.reported, className :: o.asked⟩

/-- `VisitEach answer visited classNames o`: visits to the classes, one after the other up to the first failure, come
to `o`. -/
inductive VisitEach : List String → List String → VisitOutcome → Prop
  | nil {visited} : VisitEach visited [] ⟨.ok [], visited, [], []⟩
  | stopped {visited className classNames o e} :
    Visit visited className o → o.result = .error e → VisitEach visited (className :: classNames) o
  | cons {visited className classNames o modules next} :
    Visit visited className o → o.result = .ok modules → VisitEach o.visited classNames next →
    VisitEach visited (className :: classNames)
      ⟨next.result.map (modules ++ ·), next.visited, o.reported ++ next.reported, o.asked ++ next.asked⟩

end

variable {answer}

lemma map_eq_ok {ε α β : Type} {f : α → β} {x : Except ε α} {b : β} (h : x.map f = .ok b) :
    ∃ a, x = .ok a ∧ f a = b := by
  cases x with
  | error e => simp [Except.map] at h
  | ok a => exact ⟨a, rfl, by simpa [Except.map] using h⟩

lemma map_eq_error {ε α β : Type} {f : α → β} {x : Except ε α} {e : ε} : x.map f = .error e ↔ x = .error e := by
  cases x <;> simp [Except.map]

/-! ## One end for every visit -/

mutual

theorem Visit.unique {visited className o o'} (h : Visit answer visited className o)
    (h' : Visit answer visited className o') : o = o' := by
  match h, h' with
  | .seen _, .seen _ => rfl
  | .seen hc, .failed hc' _ => exact absurd hc hc'
  | .seen hc, .converted hc' _ _ => exact absurd hc hc'
  | .failed hc _, .seen hc' => exact absurd hc' hc
  | .failed _ he, .failed _ he' =>
    rw [he] at he'
    rw [Except.error.inj he']
  | .failed _ he, .converted _ hok _ =>
    rw [he] at hok
    cases hok
  | .converted hc _ _, .seen hc' => exact absurd hc' hc
  | .converted _ hok _, .failed _ he =>
    rw [he] at hok
    cases hok
  | .converted _ hok hbelow, .converted _ hok' hbelow' =>
    rw [hok] at hok'
    cases hok'
    rw [hbelow.unique hbelow']

theorem VisitEach.unique {visited classNames o o'} (h : VisitEach answer visited classNames o)
    (h' : VisitEach answer visited classNames o') : o = o' := by
  match h, h' with
  | .nil, .nil => rfl
  | .stopped hfirst _, .stopped hfirst' _ => exact hfirst.unique hfirst'
  | .stopped hfirst he, .cons hfirst' hok _ =>
    rw [hfirst.unique hfirst', hok] at he
    cases he
  | .cons hfirst hok _, .stopped hfirst' he =>
    rw [hfirst.unique hfirst', he] at hok
    cases hok
  | .cons hfirst hok hnext, .cons hfirst' hok' hnext' =>
    cases hfirst.unique hfirst'
    rw [hok] at hok'
    cases hok'
    rw [hnext.unique hnext']

end

mutual

theorem Visit.visited_eq {visited className o} (h : Visit answer visited className o) :
    o.visited = o.reported.reverse ++ visited := by
  match h with
  | .seen _ => simp
  | .failed _ _ => simp
  | .converted _ _ hbelow => simp [hbelow.visited_eq]

theorem VisitEach.visited_eq {visited classNames o} (h : VisitEach answer visited classNames o) :
    o.visited = o.reported.reverse ++ visited := by
  match h with
  | .nil => simp
  | .stopped hfirst _ => exact hfirst.visited_eq
  | .cons hfirst _ hnext => simp [hfirst.visited_eq, hnext.visited_eq]

end

/-- The induction over visits to several classes: the first of them was visited before, cannot be converted, fails below,
or comes to its modules, and then the others follow. -/
theorem VisitEach.induct {motive : List String → List String → VisitOutcome → Prop}
    (nil : ∀ visited, motive visited [] ⟨.ok [], visited, [], []⟩)
    (seen : ∀ {visited className classNames o}, className ∈ visited → VisitEach answer visited classNames o →
      motive visited classNames o → motive visited (className :: classNames) o)
    (failed : ∀ {visited className classNames e}, className ∉ visited →
      convertAnswer answer (className :: visited) className = .error e →
      motive visited (className :: classNames) ⟨.error e, className :: visited, [className], [className]⟩)
    (stopped : ∀ {visited className classNames c e o}, className ∉ visited →
      convertAnswer answer (className :: visited) className = .ok c →
      VisitEach answer (className :: visited) c.references.unresolved o → o.result = .error e →
      motive (className :: visited) c.references.unresolved o →
      motive visited (className :: classNames) ⟨.error e, o.visited, className :: o.reported, className :: o.asked⟩)
    (converted : ∀ {visited className classNames c below o next}, className ∉ visited →
      convertAnswer answer (className :: visited) className = .ok c →
      VisitEach answer (className :: visited) c.references.unresolved o → o.result = .ok below →
      motive (className :: visited) c.references.unresolved o →
      VisitEach answer o.visited classNames next → motive o.visited classNames next →
      motive visited (className :: classNames)
        ⟨next.result.map ((below ++ [moduleOf c]) ++ ·), next.visited, className :: o.reported ++ next.reported,
          className :: o.asked ++ next.asked⟩)
    {visited classNames : List String} {o : VisitOutcome} (h : VisitEach answer visited classNames o) :
    motive visited classNames o := by
  refine @VisitEach.rec answer
    (fun visited className o _ =>
      (∀ e classNames, o.result = .error e → motive visited (className :: classNames) o) ∧
      ∀ modules classNames next, o.result = .ok modules → VisitEach answer o.visited classNames next →
        motive o.visited classNames next → motive visited (className :: classNames)
          ⟨next.result.map (modules ++ ·), next.visited, o.reported ++ next.reported, o.asked ++ next.asked⟩)
    (fun visited classNames o _ => motive visited classNames o) ?seen ?failed ?converted ?nil ?stopped ?cons _ _ _ h
  case seen =>
    intro visited className hc
    refine ⟨fun _ _ he => (nomatch he), fun modules classNames next hok hnext ih => ?_⟩
    cases hok
    have hmap : next.result.map ([] ++ ·) = next.result := by cases next.result <;> rfl
    rw [hmap]
    exact seen hc hnext ih
  case failed =>
    intro visited className e hc he
    exact ⟨fun _ _ _ => failed hc he, fun _ _ _ hok => (nomatch hok)⟩
  case converted =>
    intro visited className c o hc hok hbelow ih
    refine ⟨fun e classNames he => ?_, fun modules classNames next hmodules hnext ihnext => ?_⟩
    · have hresult : o.result.map (· ++ [moduleOf c]) = .error e := he
      rw [hresult]
      exact stopped hc hok hbelow (map_eq_error.1 hresult) ih
    · obtain ⟨below, hbelow', rfl⟩ := map_eq_ok hmodules
      exact converted hc hok hbelow hbelow' ih hnext ihnext
  case nil => exact fun {visited} => nil visited
  case stopped => exact fun _ he ih => ih.1 _ _ he
  case cons => exact fun _ hok hnext ih ihnext => ih.2 _ _ _ hok hnext ihnext

/-- A visit is the same as visits to that class alone. -/
lemma Visit.each {visited : List String} {className : String} {o : VisitOutcome}
    (h : Visit answer visited className o) : VisitEach answer visited [className] o := by
  cases hresult : o.result with
  | error e => exact .stopped h hresult
  | ok modules =>
    have hall := VisitEach.cons h hresult .nil
    simp only [Except.map, List.append_nil] at hall
    rwa [← hresult] at hall

/-- Visits to further classes go on where those before them have ended. -/
lemma VisitEach.append {visited classNames more : List String} {o next : VisitOutcome}
    (h : VisitEach answer visited classNames o) {modules : List Module} (hresult : o.result = .ok modules)
    (hnext : VisitEach answer o.visited more next) :
    VisitEach answer visited (classNames ++ more)
      ⟨next.result.map (modules ++ ·), next.visited, o.reported ++ next.reported, o.asked ++ next.asked⟩ := by
  induction classNames generalizing visited o modules with
  | nil =>
    cases h
    cases hresult
    have hmap : next.result.map ([] ++ ·) = next.result := by cases next.result <;> rfl
    rw [hmap]
    exact hnext
  | cons className classNames ih =>
    cases h with
    | stopped _ he => simp [he] at hresult
    | @cons _ _ _ o₁ modules₁ o₂ hfirst hok hrest =>
      obtain ⟨modules₂, hmodules₂, rfl⟩ := map_eq_ok hresult
      have hall := VisitEach.cons hfirst hok (ih hrest hmodules₂ hnext)
      have hmap : (next.result.map (modules₂ ++ ·)).map (modules₁ ++ ·) =
          next.result.map ((modules₁ ++ modules₂) ++ ·) := by
        cases next.result with
        | error e => rfl
        | ok modules => simp [Except.map]
      simpa only [hmap, List.append_assoc, List.cons_append] using hall

lemma VisitEach.subset_visited {visited classNames : List String} {o : VisitOutcome}
    (h : VisitEach answer visited classNames o) : visited ⊆ o.visited := by
  rw [h.visited_eq]
  exact List.subset_append_right _ _

lemma VisitEach.mem_visited {visited classNames : List String} {o : VisitOutcome}
    (h : VisitEach answer visited classNames o) {c : String} : c ∈ o.visited ↔ c ∈ o.reported ∨ c ∈ visited := by
  rw [h.visited_eq, List.mem_append, List.mem_reverse]

lemma unvisited_append_le (known more visited : List String) :
    unvisited known (more ++ visited) ≤ unvisited known visited := by
  unfold unvisited
  refine (List.monotone_filter_right known fun c hc => ?_).length_le
  simp only [List.mem_append, not_or, decide_eq_true_eq] at hc ⊢
  exact hc.2

/-- A visit comes to an end if visits to the references of its class do. -/
lemma exists_visit_of_below {visited : List String} {className : String}
    (hbelow : ∀ c, className ∉ visited → convertAnswer answer (className :: visited) className = .ok c →
      ∃ o, VisitEach answer (className :: visited) c.references.unresolved o) :
    ∃ o, Visit answer visited className o := by
  by_cases hc : className ∈ visited
  · exact ⟨_, .seen hc⟩
  · cases hok : convertAnswer answer (className :: visited) className with
    | error e => exact ⟨_, .failed hc hok⟩
    | ok c =>
      obtain ⟨o, ho⟩ := hbelow c hc hok
      exact ⟨_, .converted hc hok ho⟩

/-- Visits come to an end, since each class is opened at most once and only known classes have references. -/
theorem exists_visitEach {known : List String} (hknown : ∀ c info, answer c = .ok info → c ∈ known)
    (visited classNames : List String) : ∃ o, VisitEach answer visited classNames o := by
  induction h : unvisited known visited using Nat.strongRecOn generalizing visited classNames with
  | _ n ih =>
    subst h
    -- The classes visited meanwhile are a list in front, so that the outer induction still applies.
    suffices hall : ∀ more, ∃ o, VisitEach answer (more ++ visited) classNames o from hall []
    induction classNames with
    | nil => exact fun more => ⟨_, .nil⟩
    | cons c cs ihrest =>
      intro more
      obtain ⟨o, ho⟩ : ∃ o, Visit answer (more ++ visited) c o := by
        refine exists_visit_of_below fun conv hc hok => ?_
        have hin : c ∈ known := by
          cases ha : answer c with
          | error e => simp [convertAnswer, ha] at hok
          | ok info => exact hknown c info ha
        have hlt := Nat.lt_of_lt_of_le (unvisited_cons_lt hin hc) (unvisited_append_le known more visited)
        exact ih _ hlt (c :: (more ++ visited)) conv.references.unresolved rfl
      cases hresult : o.result with
      | error e => exact ⟨_, .stopped ho hresult⟩
      | ok modules =>
        have hvisited : o.visited = (o.reported.reverse ++ more) ++ visited := by
          rw [ho.visited_eq, List.append_assoc]
        obtain ⟨next, hnext⟩ := ihrest (o.reported.reverse ++ more)
        rw [← hvisited] at hnext
        exact ⟨_, .cons ho hresult hnext⟩

theorem exists_visit {known : List String} (hknown : ∀ c info, answer c = .ok info → c ∈ known)
    (visited : List String) (className : String) : ∃ o, Visit answer visited className o :=
  exists_visit_of_below fun _ _ _ => exists_visitEach hknown _ _

end Typings.Traversal

namespace Typings.ClassTable

/-! ## Tables of classes -/

lemma exists_of_answer {t : ClassTable} {className : String} {info : Java.ClassInfo}
    (h : t.answer className = .ok info) : (className, info) ∈ t.classes := by
  unfold answer at h
  split at h
  · cases h
  · split at h
    · cases h
    · split at h
      · rename_i hlookup
        cases h
        obtain ⟨front, back, hclasses, _⟩ := List.lookup_eq_some_iff.1 hlookup
        rw [← List.mem_reverse, hclasses]
        simp
      · cases h

lemma mem_of_answer {t : ClassTable} (className : String) (info : Java.ClassInfo)
    (h : t.answer className = .ok info) : className ∈ t.classes.map (·.1) :=
  List.mem_map.2 ⟨_, exists_of_answer h, rfl⟩

lemma faithful_answer {t : ClassTable} (h : ∀ p ∈ t.classes, p.2.name = p.1) : Traversal.Faithful t.answer :=
  fun _ _ hinfo => h _ (exists_of_answer hinfo)

/-- Four classes, of which one is referred to twice and two refer to each other. -/
def diamond : ClassTable where
  classes := [
    ("r.Root", { name := "r.Root", modifiers := ⟨1⟩, fields := [⟨"a", "r.A", ⟨1⟩⟩, ⟨"b", "r.B", ⟨1⟩⟩] }),
    ("r.A", { name := "r.A", modifiers := ⟨1⟩, fields := [⟨"c", "r.C", ⟨1⟩⟩] }),
    ("r.B", { name := "r.B", modifiers := ⟨1⟩, fields := [⟨"c", "r.C", ⟨1⟩⟩, ⟨"root", "r.Root", ⟨1⟩⟩] }),
    ("r.C", { name := "r.C", modifiers := ⟨1⟩ })]

end Typings.ClassTable
