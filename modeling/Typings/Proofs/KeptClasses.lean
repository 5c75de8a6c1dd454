import Typings.Proofs.Actions
import Typings.Proofs.Hierarchies

/-!
# Classes that are kept

A client that keeps the classes it has loaded may find one that takes more steps to put together than are left. It then
comes to what the hierarchy comes to with some number of steps, and it is cut off only where putting the class together
anew would be, too.
-/

namespace Typings

/-! ## One load after the other -/

namespace Client

variable {σ : Type}

/-- The session after each of the classes was asked for, whatever that came to. -/
def afterLoads (client : Client σ) (classNames : List String) (s : Session σ) : Session σ :=
  classNames.foldl (fun s c => Action.sessionOf (client.load c s)) s

/-- What the client says of a class after it was asked for others. -/
def answerAfter (client : Client σ) (start : σ) (before : List String) (className : String) :
    Except LoadError Java.ClassInfo :=
  Action.valueOf (client.load className (client.afterLoads before ⟨start, #[]⟩))

lemma afterLoads_append (client : Client σ) (before after : List String) (s : Session σ) :
    client.afterLoads (before ++ after) s = client.afterLoads after (client.afterLoads before s) :=
  List.foldl_append

end Client

namespace Hierarchy

variable {h : Hierarchy} {c : String} {cs : List String} {n m depth : Nat} {info : Java.ClassInfo}
  {r : Except LoadError Java.ClassInfo} {rs : Except LoadError (List Java.ClassInfo)} {e : LoadError}

/-! ## What a load may come to -/

/-- What a load with `depth` steps left comes to, when it may use classes that were put together with more steps. -/
structure Agrees (h : Hierarchy) (depth : Nat) (c : String) (r : Except LoadError Java.ClassInfo) : Prop where
  settled : r ≠ .error .cyclicInheritance → ∃ n, h.assemble n c = r
  short : r = .error .cyclicInheritance → h.assemble depth c = .error .cyclicInheritance

/-- The same for several classes one after the other. -/
structure AgreesAll (h : Hierarchy) (depth : Nat) (cs : List String) (rs : Except LoadError (List Java.ClassInfo)) :
    Prop where
  settled : rs ≠ .error .cyclicInheritance → ∃ n, cs.mapM (h.assemble n) = rs
  short : rs = .error .cyclicInheritance → cs.mapM (h.assemble depth) = .error .cyclicInheritance

lemma Agrees.exhausted : h.Agrees 0 c (.error .cyclicInheritance) :=
  ⟨fun hne => absurd rfl hne, fun _ => rfl⟩

lemma Agrees.kept (hok : h.assemble n c = .ok info) : h.Agrees depth c (.ok info) :=
  ⟨fun _ => ⟨n, hok⟩, fun heq => nomatch heq⟩

lemma Agrees.of_error (hc : h c = .error e) : h.Agrees (depth + 1) c (.error e) := by
  refine ⟨fun _ => ⟨1, assemble_of_error hc⟩, fun heq => ?_⟩
  cases heq
  exact assemble_of_error hc

lemma Agrees.of_supertypes {o : Outline} (ho : h c = .ok o) (hall : h.AgreesAll depth o.supertypes rs) :
    h.Agrees (depth + 1) c (rs.map o.complete) := by
  constructor
  · intro hne
    obtain ⟨n, hn⟩ := hall.settled fun heq => hne (by rw [heq]; rfl)
    exact ⟨n + 1, by rw [assemble_of_ok ho, hn]⟩
  · intro heq
    have hrs : rs = .error .cyclicInheritance := by
      cases rs with
      | ok infos => cases heq
      | error e =>
        cases heq
        rfl
    rw [assemble_of_ok ho, hall.short hrs]
    rfl

lemma Agrees.loadable (hr : h.Agrees depth c (.ok info)) : h.Loadable c := by
  obtain ⟨n, hn⟩ := hr.settled (by simp)
  exact ⟨n, info, hn⟩

lemma AgreesAll.nil : h.AgreesAll depth [] (.ok []) :=
  ⟨fun _ => ⟨0, rfl⟩, fun heq => nomatch heq⟩

lemma AgreesAll.stopped (hc : h.Agrees depth c (.error e)) : h.AgreesAll depth (c :: cs) (.error e) := by
  constructor
  · intro hne
    obtain ⟨n, hn⟩ := hc.settled fun heq => hne (congrArg Except.error (Except.error.inj heq))
    exact ⟨n, mapM_of_error hn⟩
  · intro heq
    cases heq
    exact mapM_of_error (hc.short rfl)

lemma AgreesAll.cons (hc : h.Agrees depth c (.ok info)) (hall : h.AgreesAll depth cs rs) :
    h.AgreesAll depth (c :: cs) (rs.map (info :: ·)) := by
  constructor
  · intro hne
    have hrs : rs ≠ .error .cyclicInheritance := fun heq => hne (by rw [heq]; rfl)
    obtain ⟨n, hn⟩ := hc.settled (by simp)
    obtain ⟨m, hm⟩ := hall.settled hrs
    -- Both come to the same with the larger number of steps.
    have hfirst : h.assemble (max n m) c = .ok info := assemble_of_ok_of_le (Nat.le_max_left n m) hn
    have hrest : cs.mapM (h.assemble (max n m)) = rs := by
      rw [mapM_eq_of_ne (fun b hb => assemble_of_le (Nat.le_max_right n m) hb) (hm ▸ hrs), hm]
    exact ⟨max n m, by rw [mapM_of_ok hfirst, hrest]⟩
  · intro heq
    have hrs : rs = .error .cyclicInheritance := by
      cases rs with
      | ok infos => cases heq
      | error e =>
        cases heq
        rfl
    have hrest := hall.short hrs
    rcases assemble_eq_of_loadable (n := depth) hc.loadable with hcyclic | ⟨i, hok⟩
    · exact mapM_of_error hcyclic
    · rw [mapM_of_ok hok, hrest]
      rfl

/-- Where there is room, kept classes make no difference. -/
theorem Room.eq_assemble {known way : List String} (hroom : h.Room known way depth c) (hcover : h.CoveredBy known)
    (hr : h.Agrees depth c r) : r = h.assemble depth c := by
  by_cases heq : r = .error .cyclicInheritance
  · rw [heq, hr.short heq]
  · obtain ⟨n, hn⟩ := hr.settled heq
    rw [hroom.assemble_eq hcover (hn ▸ heq), hn]

/-! ## Kept classes -/

/-- Each kept class is as the hierarchy gives it. -/
def Answers (h : Hierarchy) (cache : Cache) : Prop :=
  ∀ c info, cache.lookup c = some info → ∃ n, h.assemble n c = .ok info

lemma Answers.nil : h.Answers [] :=
  fun _ _ hlookup => nomatch hlookup

lemma Answers.insert {cache : Cache} (hcache : h.Answers cache) (hok : h.assemble n c = .ok info) :
    h.Answers ((c, info) :: cache) := by
  intro d i hlookup
  rw [List.lookup_cons] at hlookup
  split at hlookup
  · rename_i heq
    cases hlookup
    rw [beq_iff_eq.1 heq]
    exact ⟨n, hok⟩
  · exact hcache d i hlookup

end Hierarchy

end Typings
