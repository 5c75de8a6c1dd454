import Typings.Proofs.ListedHierarchy

/-!
# Classes are listed once

A client that lists classes keeps those it has loaded. Whatever it was asked for before, it says of a class what it would
say if it had been asked for nothing, and in the course of all its loads the tool is run at most once for a class that can
be loaded.
-/

namespace Typings.Javap

variable {h : Hierarchy} {settings : Settings} {host : Host} {c d : String} {cs runs more : List String} {depth n : Nat}
  {s t u : Session Cache} {info : Java.ClassInfo}

/-! ## Kept classes and runs of the tool -/

/-- The classes that are kept. -/
def keptClasses (cache : Cache) : List String :=
  cache.map (·.1)

lemma mem_keptClasses {cache : Cache} : c ∈ keptClasses cache ↔ ∃ info, cache.lookup c = some info := by
  rw [← Option.isSome_iff_exists, List.lookup_isSome_iff]
  simp only [keptClasses, List.mem_map, beq_iff_eq]
  constructor
  · rintro ⟨p, hp, rfl⟩
    exact ⟨p, hp, rfl⟩
  · rintro ⟨p, hp, rfl⟩
    exact ⟨p, hp, rfl⟩

/-- Kept classes are as the hierarchy gives them, and their supertypes are kept. -/
structure Consistent (h : Hierarchy) (cache : Cache) : Prop where
  answers : h.Answers cache
  closed : ∀ c d, c ∈ keptClasses cache → h.Extends c d → d ∈ keptClasses cache

lemma Consistent.nil : Consistent h [] :=
  ⟨.nil, fun _ _ hc => nomatch hc⟩

lemma Consistent.loadable {cache : Cache} (hcache : Consistent h cache) (hc : c ∈ keptClasses cache) : h.Loadable c := by
  obtain ⟨info, hlookup⟩ := mem_keptClasses.1 hc
  obtain ⟨n, hn⟩ := hcache.answers c info hlookup
  exact ⟨n, info, hn⟩

lemma Consistent.mem_of_reflTransGen {cache : Cache} (hcache : Consistent h cache) (hc : c ∈ keptClasses cache)
    (hcd : Relation.ReflTransGen h.HangsOn c d) : d ∈ keptClasses cache := by
  induction hcd with
  | refl => exact hc
  | tail _ hde ih => exact hcache.closed _ _ ih hde.extends

lemma Consistent.insert {cache : Cache} (hcache : Consistent h cache) (hok : h.assemble n c = .ok info)
    (habove : ∀ d, h.Extends c d → d ∈ keptClasses cache) : Consistent h ((c, info) :: cache) := by
  refine ⟨hcache.answers.insert hok, ?_⟩
  intro b d hb hbd
  rcases List.mem_cons.1 hb with rfl | hb
  · exact List.mem_cons_of_mem _ (habove d hbd)
  · exact List.mem_cons_of_mem _ (hcache.closed b d hb hbd)

/-- Loads take the session `s` to `t`, with the tool run for the classes in `runs`: none that was kept, at most once for
each that is kept in the end, and for each that is kept only in the end. -/
structure Advances (h : Hierarchy) (s t : Session Cache) (runs : List String) : Prop where
  consistent : Consistent h t.state
  grows : keptClasses s.state ⊆ keptClasses t.state
  listed : t.listed = s.listed ++ runs
  fresh : ∀ c ∈ runs, c ∉ keptClasses s.state
  once : ∀ c ∈ keptClasses t.state, runs.count c ≤ 1
  needed : ∀ c ∈ keptClasses t.state, c ∈ keptClasses s.state ∨ c ∈ runs

namespace Advances

lemma refl (hs : Consistent h s.state) : Advances h s s [] :=
  ⟨hs, List.Subset.refl _, by simp, by simp, by simp, fun _ hc => .inl hc⟩

/-- What the first loads have listed and did not keep is not loaded later. -/
lemma trans (hst : Advances h s t runs) (hdone : ∀ c ∈ runs, h.Loadable c → c ∈ keptClasses t.state)
    (htu : Advances h t u more) : Advances h s u (runs ++ more) where
  consistent := htu.consistent
  grows := fun c hc => htu.grows (hst.grows hc)
  listed := by rw [htu.listed, hst.listed, List.append_assoc]
  fresh := by
    intro c hc
    rcases List.mem_append.1 hc with hc | hc
    · exact hst.fresh c hc
    · exact fun hkept => htu.fresh c hc (hst.grows hkept)
  once := by
    intro c hc
    rw [List.count_append]
    by_cases hkept : c ∈ keptClasses t.state
    · have hmore : more.count c = 0 := List.count_eq_zero.2 fun hin => htu.fresh c hin hkept
      have hle := hst.once c hkept
      omega
    · have hruns : runs.count c = 0 :=
        List.count_eq_zero.2 fun hin => hkept (hdone c hin (htu.consistent.loadable hc))
      have hle := htu.once c hc
      omega
  needed := by
    intro c hc
    rcases htu.needed c hc with hkept | hin
    · rcases hst.needed c hkept with hkept | hin
      · exact .inl hkept
      · exact .inr (List.mem_append_left _ hin)
    · exact .inr (List.mem_append_right _ hin)

/-- The class is listed before those that it hangs on. -/
lemma listing {s' : Session Cache} (hst : Advances h s' t runs) (hstate : s'.state = s.state)
    (hlisted : s'.listed = s.listed ++ [c]) (hc : c ∉ keptClasses s.state)
    (habove : ∀ d ∈ runs, Relation.TransGen h.HangsOn c d) : Advances h s t (c :: runs) where
  consistent := hst.consistent
  grows := hstate ▸ hst.grows
  listed := by rw [hst.listed, hlisted, List.append_assoc, List.singleton_append]
  fresh := by
    intro d hd
    rcases List.mem_cons.1 hd with rfl | hd
    · exact hc
    · exact hstate ▸ hst.fresh d hd
  once := by
    intro d hd
    have hle := hst.once d hd
    rw [List.count_cons]
    by_cases hcd : c = d
    · subst hcd
      -- A class that is kept does not come back to itself.
      have hloadable := hst.consistent.loadable hd
      have hruns : runs.count c = 0 := List.count_eq_zero.2 fun hin => hloadable.not_hangsOn (habove c hin)
      simp [hruns]
    · simpa [hcd] using hle
  needed := by
    intro d hd
    rcases hst.needed d hd with hkept | hin
    · exact .inl (hstate ▸ hkept)
    · exact .inr (List.mem_cons_of_mem _ hin)

/-- A class whose supertypes are kept is kept after it was listed. -/
lemma keep (hst : Advances h s t runs) (hok : h.assemble n c = .ok info)
    (habove : ∀ d, h.Extends c d → d ∈ keptClasses t.state) (hc : runs.count c = 1) :
    Advances h s ⟨(c, info) :: t.state, t.journal⟩ runs where
  consistent := hst.consistent.insert hok habove
  grows := fun d hd => List.mem_cons_of_mem _ (hst.grows hd)
  listed := hst.listed
  fresh := hst.fresh
  once := by
    intro d hd
    rcases List.mem_cons.1 hd with rfl | hd
    · omega
    · exact hst.once d hd
  needed := by
    intro d hd
    rcases List.mem_cons.1 hd with rfl | hd
    · exact .inr (List.count_pos_iff.1 (by omega))
    · exact hst.needed d hd

end Advances

/-! ## Loads -/

/-- What a load does: it comes to what the hierarchy gives, and lists and keeps classes on the way up. -/
structure Loads (h : Hierarchy) (depth : Nat) (c : String) (s : Session Cache)
    (r : EStateM.Result LoadError (Session Cache) Java.ClassInfo) : Prop where
  agrees : h.Agrees depth c (Action.valueOf r)
  advances : ∃ runs, Advances h s (Action.sessionOf r) runs ∧ ∀ d ∈ runs, Relation.ReflTransGen h.HangsOn c d
  kept : ∀ info, Action.valueOf r = .ok info → c ∈ keptClasses (Action.sessionOf r).state

/-- What loads of several classes do one after the other. -/
structure LoadsAll (h : Hierarchy) (depth : Nat) (cs : List String) (s : Session Cache)
    (r : EStateM.Result LoadError (Session Cache) (List Java.ClassInfo)) : Prop where
  agrees : h.AgreesAll depth cs (Action.valueOf r)
  advances : ∃ runs, Advances h s (Action.sessionOf r) runs ∧
    ∀ d ∈ runs, ∃ before c after, cs = before ++ c :: after ∧ (∀ b ∈ before, h.Loadable b) ∧
      Relation.ReflTransGen h.HangsOn c d
  kept : ∀ infos, Action.valueOf r = .ok infos → ∀ c ∈ cs, c ∈ keptClasses (Action.sessionOf r).state

lemma Loads.agrees_ok (hload : Loads h depth c s (.ok info t)) : h.Agrees depth c (.ok info) :=
  hload.agrees

lemma Loads.consistent {r : EStateM.Result LoadError (Session Cache) Java.ClassInfo} (hload : Loads h depth c s r) :
    Consistent h (Action.sessionOf r).state := by
  obtain ⟨runs, hadv, -⟩ := hload.advances
  exact hadv.consistent

/-- What is listed for the supertypes of a class is above it. -/
lemma LoadsAll.above {l : Listing} {r : EStateM.Result LoadError (Session Cache) (List Java.ClassInfo)}
    (hall : LoadsAll (hierarchy settings host) depth (l.supertypes c) s r) (hc : declared settings host c = .ok l) :
    ∃ runs, Advances (hierarchy settings host) s (Action.sessionOf r) runs ∧
      ∀ d ∈ runs, Relation.TransGen (hierarchy settings host).HangsOn c d := by
  obtain ⟨runs, hadv, hbelow⟩ := hall.advances
  refine ⟨runs, hadv, fun d hd => ?_⟩
  obtain ⟨before, b, after, hsplit, hbefore, hbd⟩ := hbelow d hd
  exact Relation.TransGen.head' ⟨_, before, after, hierarchy_of_ok hc, hsplit, hbefore⟩ hbd

lemma notMem_of_lookup {cache : Cache} (hnone : cache.lookup c = none) : c ∉ keptClasses cache := by
  intro hc
  obtain ⟨info, hinfo⟩ := mem_keptClasses.1 hc
  rw [hnone] at hinfo
  cases hinfo

namespace LoadsAll

variable {e : LoadError} {infos : List Java.ClassInfo}

lemma nil (hs : Consistent h s.state) : LoadsAll h depth [] s (.ok [] s) :=
  ⟨.nil, ⟨[], .refl hs, by simp⟩, by simp⟩

lemma first (hone : Loads h depth c s (.error e t)) : LoadsAll h depth (c :: cs) s (.error e t) := by
  obtain ⟨runs, hadv, hbelow⟩ := hone.advances
  refine ⟨.stopped hone.agrees, ⟨runs, hadv, fun d hd => ?_⟩, fun _ hok => nomatch hok⟩
  exact ⟨[], c, cs, rfl, by simp, hbelow d hd⟩

/-- The classes after one that was loaded. -/
lemma advances_cons {r : EStateM.Result LoadError (Session Cache) (List Java.ClassInfo)}
    (hone : Loads h depth c s (.ok info t)) (hrest : LoadsAll h depth cs t r) :
    ∃ runs, Advances h s (Action.sessionOf r) runs ∧
      ∀ d ∈ runs, ∃ before b after, c :: cs = before ++ b :: after ∧ (∀ b ∈ before, h.Loadable b) ∧
        Relation.ReflTransGen h.HangsOn b d := by
  obtain ⟨runs, hadv, hbelow⟩ := hone.advances
  obtain ⟨more, hadv', hbelow'⟩ := hrest.advances
  have hkept := hone.kept info rfl
  have hdone : ∀ d ∈ runs, h.Loadable d → d ∈ keptClasses t.state := fun d hd _ =>
    hadv.consistent.mem_of_reflTransGen hkept (hbelow d hd)
  refine ⟨runs ++ more, hadv.trans hdone hadv', fun d hd => ?_⟩
  rcases List.mem_append.1 hd with hd | hd
  · exact ⟨[], c, cs, rfl, by simp, hbelow d hd⟩
  · obtain ⟨before, b, after, rfl, hbefore, hbd⟩ := hbelow' d hd
    refine ⟨c :: before, b, after, rfl, ?_, hbd⟩
    intro x hx
    rcases List.mem_cons.1 hx with rfl | hx
    · exact hone.agrees_ok.loadable
    · exact hbefore x hx

lemma later (hone : Loads h depth c s (.ok info t)) (hrest : LoadsAll h depth cs t (.error e u)) :
    LoadsAll h depth (c :: cs) s (.error e u) :=
  ⟨.cons hone.agrees_ok hrest.agrees, advances_cons hone hrest, fun _ hok => nomatch hok⟩

lemma cons (hone : Loads h depth c s (.ok info t)) (hrest : LoadsAll h depth cs t (.ok infos u)) :
    LoadsAll h depth (c :: cs) s (.ok (info :: infos) u) := by
  have hadvances := advances_cons hone hrest
  refine ⟨.cons hone.agrees_ok hrest.agrees, hadvances, fun _ _ d hd => ?_⟩
  rcases List.mem_cons.1 hd with rfl | hd
  · obtain ⟨runs, hadv, -⟩ := hrest.advances
    exact hadv.grows (hone.kept info rfl)
  · exact hrest.kept infos rfl d hd

end LoadsAll

/-- Every load of a client whose kept classes are as the hierarchy gives them is as it should be. -/
theorem loads_load (settings : Settings) (host : Host) (depth : Nat) (c : String) (s : Session Cache) :
    Consistent (hierarchy settings host) s.state →
      Loads (hierarchy settings host) depth c s (load settings host depth c s) := by
  refine load_induct
    (fun depth c s r => Consistent (hierarchy settings host) s.state → Loads (hierarchy settings host) depth c s r)
    (fun depth cs s r =>
      Consistent (hierarchy settings host) s.state → LoadsAll (hierarchy settings host) depth cs s r)
    ?exhausted ?kept ?unlisted ?stopped ?loaded ?nil ?first ?later ?cons depth c s
  case exhausted =>
    intro c s hs
    exact ⟨.exhausted, ⟨[], .refl hs, by simp⟩, fun _ hok => nomatch hok⟩
  case kept =>
    intro depth c s info hlookup hs
    obtain ⟨n, hn⟩ := hs.answers c info hlookup
    exact ⟨.kept hn, ⟨[], .refl hs, by simp⟩, fun _ _ => mem_keptClasses.2 ⟨info, hlookup⟩⟩
  case unlisted =>
    intro depth c s e s' hnone hrun hs
    obtain ⟨hc, hstate, hlisted⟩ := describe_error hrun
    refine ⟨.of_error (hierarchy_of_error hc), ?_, fun _ hok => nomatch hok⟩
    have hs' : Consistent (hierarchy settings host) s'.state := hstate ▸ hs
    have hfresh := notMem_of_lookup hnone
    rcases hlisted with hlisted | hlisted
    · refine ⟨[], ⟨hs', ?_, ?_, by simp, by simp, ?_⟩, by simp⟩
      · exact hstate ▸ List.Subset.refl _
      · rw [List.append_nil]
        exact hlisted
      · exact fun d hd => .inl (hstate ▸ hd)
    · refine ⟨[c], (Advances.refl hs').listing hstate hlisted hfresh (by simp), fun d hd => ?_⟩
      rw [List.mem_singleton.1 hd]
  case stopped =>
    intro depth c s l s' e s'' hnone hrun hall hs
    obtain ⟨hc, hstate, hlisted⟩ := describe_ok hrun
    have hsupers := hall (hstate ▸ hs)
    obtain ⟨runs, hadv, habove⟩ := hsupers.above hc
    refine ⟨?_, ⟨c :: runs, hadv.listing hstate hlisted (notMem_of_lookup hnone) habove, ?_⟩, fun _ hok => nomatch hok⟩
    · exact Hierarchy.Agrees.of_supertypes (hierarchy_of_ok hc) hsupers.agrees
    · intro d hd
      rcases List.mem_cons.1 hd with rfl | hd
      · exact .refl
      · exact (habove d hd).to_reflTransGen
  case loaded =>
    intro depth c s l s' infos s'' hnone hrun hall hs
    obtain ⟨hc, hstate, hlisted⟩ := describe_ok hrun
    have hsupers := hall (hstate ▸ hs)
    obtain ⟨runs, hadv, habove⟩ := hsupers.above hc
    have hagrees := Hierarchy.Agrees.of_supertypes (hierarchy_of_ok hc) hsupers.agrees
    obtain ⟨n, hn⟩ := hagrees.settled (fun heq => nomatch heq)
    have hup : ∀ d, (hierarchy settings host).Extends c d → d ∈ keptClasses s''.state := by
      intro d hd
      obtain ⟨l', hl', hd⟩ := extends_iff.1 hd
      rw [hc] at hl'
      cases hl'
      exact hsupers.kept infos rfl d hd
    have hlist := hadv.listing hstate hlisted (notMem_of_lookup hnone) habove
    have hcount : (c :: runs).count c = 1 := by
      have hloadable : (hierarchy settings host).Loadable c := ⟨n, _, hn⟩
      have hruns : c ∉ runs := fun hin => hloadable.not_hangsOn (habove c hin)
      rw [List.count_cons_self, List.count_eq_zero.2 hruns]
    refine ⟨hagrees, ⟨c :: runs, hlist.keep hn hup hcount, ?_⟩, fun _ _ => List.mem_cons_self⟩
    intro d hd
    rcases List.mem_cons.1 hd with rfl | hd
    · exact .refl
    · exact (habove d hd).to_reflTransGen
  case nil => exact fun _ _ hs => .nil hs
  case first => exact fun _ _ _ _ _ _ hone hs => .first (hone hs)
  case later => exact fun _ _ _ _ _ _ _ _ hone hall hs => .later (hone hs) (hall (hone hs).consistent)
  case cons => exact fun _ _ _ _ _ _ _ _ hone hall hs => .cons (hone hs) (hall (hone hs).consistent)

theorem loadsAll_mapM (settings : Settings) (host : Host) (depth : Nat) (cs : List String) (s : Session Cache) :
    Consistent (hierarchy settings host) s.state →
      LoadsAll (hierarchy settings host) depth cs s (cs.mapM (load settings host depth) s) := by
  refine mapM_induct
    (fun c s r => Consistent (hierarchy settings host) s.state → Loads (hierarchy settings host) depth c s r)
    (fun cs s r =>
      Consistent (hierarchy settings host) s.state → LoadsAll (hierarchy settings host) depth cs s r)
    (loads_load settings host depth) ?_ ?_ ?_ ?_ cs s
  · exact fun _ hs => .nil hs
  · exact fun _ _ _ _ _ hone hs => .first (hone hs)
  · exact fun _ _ _ _ _ _ _ hone hall hs => .later (hone hs) (hall (hone hs).consistent)
  · exact fun _ _ _ _ _ _ _ hone hall hs => .cons (hone hs) (hall (hone hs).consistent)

/-! ## Classes that can be loaded are kept -/

variable {known way before after : List String}

/-- A way to another class has a part that does not come back to where it starts. -/
lemma exists_step_avoiding {α : Type} {R : α → α → Prop} {a x : α} (hax : Relation.ReflTransGen R a x) (hne : a ≠ x) :
    ∃ b, R a b ∧ b ≠ a ∧ Relation.ReflTransGen (fun u v => R u v ∧ v ≠ a) b x := by
  -- From each class on the way, either the rest of the way avoids `a` or a later part of it does that starts there.
  have hall : ∀ u, Relation.ReflTransGen R u x → Relation.ReflTransGen (fun u v => R u v ∧ v ≠ a) u x ∨
      ∃ b, R a b ∧ b ≠ a ∧ Relation.ReflTransGen (fun u v => R u v ∧ v ≠ a) b x := by
    intro u hux
    induction hux using Relation.ReflTransGen.head_induction_on with
    | refl => exact .inl .refl
    | @head u v huv _ ih =>
      rcases ih with hvx | hlater
      · by_cases hva : v = a
        · subst hva
          rcases hvx.cases_head with heq | ⟨b, hb, hbx⟩
          · exact absurd heq hne
          · exact .inr ⟨b, hb.1, hb.2, hbx⟩
        · exact .inl (hvx.head ⟨huv, hva⟩)
      · exact .inr hlater
  rcases hall a hax with havoid | hlater
  · rcases havoid.cases_head with heq | ⟨b, hb, hbx⟩
    · exact absurd heq hne
    · exact ⟨b, hb.1, hb.2, hbx⟩
  · exact hlater

/-- A class that can be loaded is loaded where there is room. -/
lemma exists_load_eq {c : String} (hs : Consistent (hierarchy settings host) s.state)
    (hroom : (hierarchy settings host).Room (host.outcomes.map (·.1)) way depth c)
    (hload : (hierarchy settings host).Loadable c) :
    ∃ info s', load settings host depth c s = .ok info s' ∧ Consistent (hierarchy settings host) s'.state ∧
      c ∈ keptClasses s'.state := by
  have hspec := loads_load settings host depth c s hs
  have hcover := hierarchy_coveredBy settings host
  obtain ⟨n, info, hn⟩ := hload
  have hassemble := hroom.assemble_eq hcover (m := n) (by simp [hn])
  have hvalue : Action.valueOf (load settings host depth c s) = .ok info := by
    rw [hroom.eq_assemble hcover hspec.agrees, hassemble, hn]
  cases hrun : load settings host depth c s with
  | error e s' =>
    rw [hrun] at hvalue
    cases hvalue
  | ok info' s' =>
    rw [hrun] at hspec
    exact ⟨info', s', rfl, hspec.consistent, hspec.kept info' rfl⟩

/-- What a class in a list keeps is kept, when those before it are loaded. -/
lemma mem_kept_mapM {x : String} (hs : Consistent (hierarchy settings host) s.state)
    (hbefore : ∀ b ∈ before, ∀ s, Consistent (hierarchy settings host) s.state →
      ∃ info s', load settings host depth b s = .ok info s' ∧ Consistent (hierarchy settings host) s'.state)
    (hc : ∀ s, Consistent (hierarchy settings host) s.state →
      x ∈ keptClasses (Action.sessionOf (load settings host depth c s)).state) :
    x ∈ keptClasses (Action.sessionOf ((before ++ c :: after).mapM (load settings host depth) s)).state := by
  induction before generalizing s with
  | nil =>
    have hx := hc s hs
    have hspec := loads_load settings host depth c s hs
    rw [List.nil_append]
    cases hrun : load settings host depth c s with
    | error e s' =>
      rw [hrun] at hx
      rw [mapM_cons_stopped hrun]
      exact hx
    | ok info s' =>
      rw [hrun] at hx hspec
      obtain ⟨runs, hadv, -⟩ := (loadsAll_mapM settings host depth after s' hspec.consistent).advances
      rw [Action.sessionOf_mapM_cons hrun]
      exact hadv.grows hx
  | cons b before ih =>
    obtain ⟨info, s', hrun, hs'⟩ := hbefore b List.mem_cons_self s hs
    rw [List.cons_append, Action.sessionOf_mapM_cons hrun]
    exact ih hs' fun b hb => hbefore b (List.mem_cons_of_mem _ hb)

lemma hangsOn_of_mem_before {o : Outline} {b : String} (ho : h c = .ok o) (hsplit : o.supertypes = before ++ d :: after)
    (hbefore : ∀ b ∈ before, h.Loadable b) (hb : b ∈ before) : h.HangsOn c b := by
  obtain ⟨front, back, rfl⟩ := List.append_of_mem hb
  refine ⟨o, front, back ++ d :: after, ho, ?_, fun x hx => hbefore x (List.mem_append_left _ hx)⟩
  rw [hsplit, List.append_assoc, List.cons_append]

lemma exists_describe_eq {o : Outline} (ho : hierarchy settings host c = .ok o) (s : Session Cache) :
    ∃ l s', describe settings host c s = .ok l s' ∧ o.supertypes = l.supertypes c ∧ s'.state = s.state := by
  cases hrun : describe settings host c s with
  | error e s' =>
    rw [hierarchy_of_error (describe_error hrun).1] at ho
    cases ho
  | ok l s' =>
    obtain ⟨hc, hstate, -⟩ := describe_ok hrun
    rw [hierarchy_of_ok hc] at ho
    cases ho
    exact ⟨l, s', rfl, rfl, hstate⟩

/-- What is kept while the supertypes of a class are loaded stays. -/
lemma kept_mapM_subset {l : Listing} {s' : Session Cache} (hnone : s.state.lookup c = none)
    (hrun : describe settings host c s = .ok l s') :
    keptClasses (Action.sessionOf ((l.supertypes c).mapM (load settings host depth) s')).state ⊆
      keptClasses (Action.sessionOf (load settings host (depth + 1) c s)).state := by
  rw [load_succ]
  simp only [hnone, hrun]
  cases (l.supertypes c).mapM (load settings host depth) s' with
  | error e s'' => exact List.Subset.refl _
  | ok infos s'' => exact fun d hd => List.mem_cons_of_mem _ hd

/-- A class that can be loaded is kept once the way to it was gone, as long as that comes back to no class. -/
theorem mem_kept_load {x : String} (hload : (hierarchy settings host).Loadable x)
    (hs : Consistent (hierarchy settings host) s.state)
    (hroom : (hierarchy settings host).Room (host.outcomes.map (·.1)) way depth c) (hfresh : c ∉ way)
    (hcx : Relation.ReflTransGen (fun u v => (hierarchy settings host).HangsOn u v ∧ v ∉ way) c x) :
    x ∈ keptClasses (Action.sessionOf (load settings host depth c s)).state := by
  induction depth generalizing c way s with
  | zero => exact absurd hroom.pos (Nat.lt_irrefl 0)
  | succ depth ih =>
    by_cases hc : (hierarchy settings host).Loadable c
    · obtain ⟨info, s', hrun, hs', hkept⟩ := exists_load_eq hs hroom hc
      rw [hrun]
      exact hs'.mem_of_reflTransGen hkept (Relation.ReflTransGen.mono (fun _ _ hstep => hstep.1) _ _ hcx)
    · have hne : c ≠ x := fun heq => hc (heq ▸ hload)
      obtain ⟨d, ⟨hcd, hway⟩, hdc, hdx⟩ := exists_step_avoiding hcx hne
      have hup := fun {b} => hroom.up (d := b) (hierarchy_coveredBy settings host) hfresh
      have hnone : s.state.lookup c = none := by
        cases hlookup : s.state.lookup c with
        | none => rfl
        | some info => exact absurd (hs.loadable (mem_keptClasses.2 ⟨info, hlookup⟩)) hc
      obtain ⟨o, before, after, ho, hsplit, hbefore⟩ := id hcd
      obtain ⟨l, s', hrun, hsupers, hstate⟩ := exists_describe_eq ho s
      refine kept_mapM_subset hnone hrun ?_
      rw [← hsupers, hsplit]
      -- The supertypes before `d` can be loaded; the way goes on from `d` and avoids `c` from there.
      refine mem_kept_mapM (hstate ▸ hs) (fun b hb t ht => ?_) fun t ht => ?_
      · have hcb := hangsOn_of_mem_before ho hsplit hbefore hb
        obtain ⟨info, t', hload, ht', -⟩ := exists_load_eq ht (hup hcb) (hbefore b hb)
        exact ⟨info, t', hload, ht'⟩
      · refine ih ht (hup hcd) (by simp [hdc, hway]) ?_
        refine Relation.ReflTransGen.mono (fun u v huv => ?_) _ _ hdx
        exact ⟨huv.1.1, by simp [huv.2, huv.1.2]⟩

/-! ## Histories of loads -/

/-- The session after a new client was asked for each of the classes. -/
def sessionAfter (settings : Settings) (host : Host) (classNames : List String) : Session Cache :=
  (client settings host).afterLoads classNames ⟨[], #[]⟩

/-- Loads that keep each class which can be loaded and for which the tool was run. -/
structure Completes (h : Hierarchy) (s t : Session Cache) (runs : List String) : Prop extends Advances h s t runs where
  done : ∀ c ∈ runs, h.Loadable c → c ∈ keptClasses t.state

lemma Completes.trans (hst : Completes h s t runs) (htu : Completes h t u more) : Completes h s u (runs ++ more) where
  toAdvances := hst.toAdvances.trans hst.done htu.toAdvances
  done := by
    intro c hc hload
    rcases List.mem_append.1 hc with hc | hc
    · exact htu.grows (hst.done c hc hload)
    · exact htu.done c hc hload

lemma completes_load {s : Session Cache} (hs : Consistent (hierarchy settings host) s.state) (c : String) :
    ∃ runs, Completes (hierarchy settings host) s (Action.sessionOf ((client settings host).load c s)) runs ∧
      ∀ d ∈ runs, Relation.ReflTransGen (hierarchy settings host).HangsOn c d := by
  obtain ⟨runs, hadv, hbelow⟩ := (loads_load settings host (host.outcomes.length + 1) c s hs).advances
  refine ⟨runs, ⟨hadv, fun d hd hload => ?_⟩, hbelow⟩
  refine mem_kept_load hload hs (room_start settings host c) (by simp) ?_
  exact Relation.ReflTransGen.mono (fun u v huv => ⟨huv, by simp⟩) _ _ (hbelow d hd)

lemma completes_afterLoads {s : Session Cache} (hs : Consistent (hierarchy settings host) s.state) (cs : List String) :
    ∃ runs, Completes (hierarchy settings host) s ((client settings host).afterLoads cs s) runs := by
  induction cs generalizing s with
  | nil => exact ⟨[], ⟨.refl hs, by simp⟩⟩
  | cons c cs ih =>
    obtain ⟨runs, hfirst, -⟩ := completes_load hs c
    obtain ⟨more, hrest⟩ := ih hfirst.consistent
    exact ⟨runs ++ more, hfirst.trans hrest⟩

/-- In the end each class was listed that the tool was run for. -/
lemma completes_sessionAfter (settings : Settings) (host : Host) (cs : List String) :
    Completes (hierarchy settings host) ⟨[], #[]⟩ (sessionAfter settings host cs) (sessionAfter settings host cs).listed := by
  obtain ⟨runs, hall⟩ : ∃ runs, Completes (hierarchy settings host) ⟨[], #[]⟩ (sessionAfter settings host cs) runs :=
    completes_afterLoads .nil cs
  have hlisted : (sessionAfter settings host cs).listed = runs := by
    rw [hall.listed]
    rfl
  rwa [hlisted]

lemma consistent_sessionAfter (settings : Settings) (host : Host) (cs : List String) :
    Consistent (hierarchy settings host) (sessionAfter settings host cs).state := by
  have hall := completes_sessionAfter settings host cs
  exact hall.consistent

/-- What the client says of a class is what the hierarchy gives, whatever it was asked for before. -/
theorem answerAfter_eq (settings : Settings) (host : Host) (before : List String) (c : String) :
    (client settings host).answerAfter [] before c =
      (hierarchy settings host).assemble (host.outcomes.length + 1) c := by
  have hs := consistent_sessionAfter settings host before
  exact (room_start settings host c).eq_assemble (hierarchy_coveredBy settings host) (loads_load settings host _ c _ hs).agrees

lemma loadable_of_answerAfter {before : List String}
    (hok : (client settings host).answerAfter [] before c = .ok info) : (hierarchy settings host).Loadable c := by
  rw [answerAfter_eq] at hok
  exact ⟨_, info, hok⟩

lemma sessionAfter_append (settings : Settings) (host : Host) (before after : List String) :
    sessionAfter settings host (before ++ after) =
      (client settings host).afterLoads after (sessionAfter settings host before) :=
  Client.afterLoads_append _ _ _ _

/-- A class that can be loaded is listed at most once. -/
lemma Completes.count_le_one (hst : Completes h s t runs) (hload : h.Loadable c) : runs.count c ≤ 1 := by
  by_cases hkept : c ∈ keptClasses t.state
  · exact hst.once c hkept
  · have hnone := List.count_eq_zero.2 fun hin => hkept (hst.done c hin hload)
    omega

/-- A class that is kept has been listed by then, and it is not listed again. -/
lemma listed_of_kept {before after : List String} (hc : c ∈ keptClasses (sessionAfter settings host before).state) :
    c ∈ (sessionAfter settings host before).listed ∧
      (sessionAfter settings host (before ++ after)).listed.count c = 1 := by
  have hbefore := completes_sessionAfter settings host before
  obtain ⟨more, hafter⟩ := completes_afterLoads (consistent_sessionAfter settings host before) after
  have hruns : c ∈ (sessionAfter settings host before).listed :=
    (hbefore.needed c hc).resolve_left (by simp [keptClasses])
  have hmore : more.count c = 0 := List.count_eq_zero.2 fun hin => hafter.fresh c hin hc
  have hle := hbefore.once c hc
  have hpos := List.count_pos_iff.2 hruns
  rw [sessionAfter_append, hafter.listed, List.count_append]
  exact ⟨hruns, by omega⟩

/-- A load that succeeds keeps the class and all classes above it, and lists none of them twice. -/
lemma kept_of_answerAfter {before : List String} (hok : (client settings host).answerAfter [] before c = .ok info) :
    (∀ d, Relation.ReflTransGen (hierarchy settings host).Extends c d →
      d ∈ keptClasses (sessionAfter settings host (before ++ [c])).state) ∧
    ∃ runs, (sessionAfter settings host (before ++ [c])).listed = (sessionAfter settings host before).listed ++ runs ∧
      runs.Nodup := by
  have hs := consistent_sessionAfter settings host before
  have hafter : sessionAfter settings host (before ++ [c]) =
      Action.sessionOf ((client settings host).load c (sessionAfter settings host before)) :=
    sessionAfter_append settings host before [c]
  have hloads := loads_load settings host (host.outcomes.length + 1) c _ hs
  have hkept := hloads.kept info hok
  obtain ⟨runs, hadv, hbelow⟩ := hloads.advances
  rw [hafter]
  refine ⟨fun d hcd => ?_, runs, hadv.listed, ?_⟩
  · induction hcd with
    | refl => exact hkept
    | tail _ hde ih => exact hadv.consistent.closed _ _ ih hde
  · refine List.nodup_iff_count_le_one.2 fun d => ?_
    by_cases hd : d ∈ runs
    · exact hadv.once d (hadv.consistent.mem_of_reflTransGen hkept (hbelow d hd))
    · rw [List.count_eq_zero.2 hd]
      exact Nat.zero_le 1

/-- In any sequence of loads the client says of each class what a new one says. Once a class was loaded, for itself or as
a supertype, whether or not the load that it was loaded for succeeds, the tool is never run for it again; in all, it is run
at most once for a class that a new client can load. A load that succeeds loads all classes above the class, and none of
them is listed twice. -/
theorem loads_as_new_and_lists_once (settings : Settings) (host : Host) (classNames : List String) :
    (∀ before c after, classNames = before ++ c :: after →
      (client settings host).answerAfter [] before c = (client settings host).answerAfter [] [] c) ∧
    (∀ before after, classNames = before ++ after → ∀ c ∈ keptClasses (sessionAfter settings host before).state,
      c ∈ (sessionAfter settings host before).listed ∧ (sessionAfter settings host classNames).listed.count c = 1) ∧
    (∀ c info, (client settings host).answerAfter [] [] c = .ok info →
      (sessionAfter settings host classNames).listed.count c ≤ 1) ∧
    ∀ before c after info, classNames = before ++ c :: after →
      (client settings host).answerAfter [] before c = .ok info →
        (∀ d, Relation.ReflTransGen (hierarchy settings host).Extends c d →
          d ∈ keptClasses (sessionAfter settings host (before ++ [c])).state) ∧
        ∃ runs, (sessionAfter settings host (before ++ [c])).listed =
          (sessionAfter settings host before).listed ++ runs ∧ runs.Nodup := by
  refine ⟨?_, ?_, ?_, ?_⟩
  · rintro before c after -
    rw [answerAfter_eq, answerAfter_eq]
  · rintro before after rfl c hc
    exact listed_of_kept hc
  · intro c info hok
    exact (completes_sessionAfter settings host classNames).count_le_one (loadable_of_answerAfter hok)
  · rintro before c after info - hok
    exact kept_of_answerAfter hok

/-- The outcome of a run that lists a class. -/
def lists (className text : String) : String × Outcome :=
  (className, .finished text "" 0)

/-- A class below two interfaces which extend the same one, and another class whose interface extends itself. -/
def Host.looped : Host where
  located? := some "javap"
  outcomes :=
    [lists "java.lang.Object" "public class java.lang.Object \x7b\n\x7d\n",
     lists "w.Top" "public interface w.Top \x7b\n\x7d\n",
     lists "w.Left" "public interface w.Left extends w.Top \x7b\n\x7d\n",
     lists "w.Right" "public interface w.Right extends w.Top \x7b\n\x7d\n",
     lists "w.Low" "public class w.Low implements w.Left, w.Right \x7b\n\x7d\n",
     lists "w.Loop" "public class w.Loop extends w.Low implements w.Back \x7b\n\x7d\n",
     lists "w.Back" "public interface w.Back extends w.Right, w.Back \x7b\n\x7d\n"]

/-- Loading `w.Loop` fails, but `w.Low` and the classes above it are kept, and they are not listed again. -/
theorem loads_as_new_and_lists_once_looped :
    (client {} Host.looped).answerAfter [] ["w.Loop"] "w.Low" = (client {} Host.looped).answerAfter [] [] "w.Low" ∧
    (client {} Host.looped).answerAfter [] [] "w.Loop" = .error .cyclicInheritance ∧
    "w.Top" ∈ keptClasses (sessionAfter {} Host.looped ["w.Loop"]).state ∧
    (sessionAfter {} Host.looped ["w.Loop", "w.Low"]).listed.count "w.Top" = 1 ∧
    (sessionAfter {} Host.looped ["w.Loop", "w.Low"]).listed.count "w.Low" ≤ 1 ∧
    (∃ info, (client {} Host.looped).answerAfter [] ["w.Loop"] "w.Low" = .ok info) ∧
    "w.Top" ∈ keptClasses (sessionAfter {} Host.looped ["w.Loop", "w.Low"]).state := by
  obtain ⟨hsame, hkept, honce, hloads⟩ := loads_as_new_and_lists_once {} Host.looped ["w.Loop", "w.Low"]
  obtain ⟨hloop, htop, hnew⟩ :
      (client {} Host.looped).answerAfter [] [] "w.Loop" = .error .cyclicInheritance ∧
      "w.Top" ∈ keptClasses (sessionAfter {} Host.looped ["w.Loop"]).state ∧
      (client {} Host.looped).answerAfter [] [] "w.Low" = .ok ⟨"w.Low", ⟨1⟩, false, [], [], []⟩ := by decide +kernel
  have hlow := (hsame ["w.Loop"] "w.Low" [] rfl).trans hnew
  have hextends : Relation.ReflTransGen (hierarchy {} Host.looped).Extends "w.Low" "w.Top" :=
    .head (b := "w.Left") (by decide +kernel) (.single (by decide +kernel))
  refine ⟨hlow.trans hnew.symm, hloop, htop, (hkept ["w.Loop"] ["w.Low"] rfl _ htop).2, ?_, ⟨_, hlow⟩, ?_⟩
  · exact honce "w.Low" _ hnew
  · exact (hloads ["w.Loop"] "w.Low" [] _ rfl hlow).1 "w.Top" hextends

end Typings.Javap
