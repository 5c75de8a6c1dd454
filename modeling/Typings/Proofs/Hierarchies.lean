import Mathlib.Data.List.Nodup
import Mathlib.Logic.Relation
import Typings.Client

/-!
# Class hierarchies

A class is put together from its supertypes, which are put together first. Going up the hierarchy is cut off after some
number of steps; with more steps than there are classes with supertypes it is cut off only where a class comes back to
itself, and there it would be with any number of steps.
-/

namespace Typings

/-- What is known of a class before its supertypes are put together: their names, and what it becomes with them. -/
structure Outline where
  supertypes : List String
  complete : List Java.ClassInfo → Java.ClassInfo

/-- What is known of each class, or why nothing is. -/
abbrev Hierarchy := String → Except LoadError Outline

namespace Hierarchy

/-- The class put together from its supertypes, at most `depth` steps up the hierarchy. -/
def assemble (h : Hierarchy) : Nat → String → Except LoadError Java.ClassInfo
  | 0, _ => .error .cyclicInheritance
  | depth + 1, c => do
    let outline ← h c
    return outline.complete (← outline.supertypes.mapM (assemble h depth))

/-- `d` is a supertype of `c`. -/
def Extends (h : Hierarchy) (c d : String) : Prop :=
  ∃ outline, h c = .ok outline ∧ d ∈ outline.supertypes

/-- With some number of steps the class is put together. -/
def Loadable (h : Hierarchy) (c : String) : Prop :=
  ∃ depth info, h.assemble depth c = .ok info

/-- `d` is a supertype of `c`, and those before it are put together first. -/
def HangsOn (h : Hierarchy) (c d : String) : Prop :=
  ∃ outline before after, h c = .ok outline ∧ outline.supertypes = before ++ d :: after ∧ ∀ b ∈ before, h.Loadable b

/-- The class and all classes above it are described. -/
def IsDescribed (h : Hierarchy) (c : String) : Prop :=
  ∀ d, Relation.ReflTransGen h.Extends c d → ∃ outline, h d = .ok outline

/-- None of the classes above a class, nor itself, comes back to itself. -/
def IsAcyclic (h : Hierarchy) (c : String) : Prop :=
  ∀ d, Relation.ReflTransGen h.Extends c d → ¬Relation.TransGen h.Extends d d

/-! ## Lists of classes -/

section Lists

variable {α : Type} {f g : String → Except LoadError α} {c : String} {cs before after : List String} {is : List α}
  {e : LoadError}

lemma mapM_of_error (hc : f c = .error e) : (c :: cs).mapM f = .error e := by
  rw [List.mapM_cons, hc]
  rfl

lemma mapM_of_ok {i : α} (hc : f c = .ok i) : (c :: cs).mapM f = (cs.mapM f).map (i :: ·) := by
  rw [List.mapM_cons, hc]
  simp only [bind, Except.bind]
  cases cs.mapM f <;> rfl

lemma mapM_ok_iff : cs.mapM f = .ok is ↔ List.Forall₂ (fun c i => f c = .ok i) cs is := by
  induction cs generalizing is with
  | nil => cases is <;> simp [pure, Except.pure]
  | cons c cs ih =>
    cases hc : f c with
    | error e => cases is <;> simp [mapM_of_error hc, hc]
    | ok i =>
      rw [mapM_of_ok hc]
      cases hcs : cs.mapM f with
      | error e => cases is <;> simp [Except.map, ← ih, hcs]
      | ok js => cases is <;> simp [Except.map, ← ih, hcs, hc]

lemma ok_of_mem (h : cs.mapM f = .ok is) (hc : c ∈ cs) : ∃ i ∈ is, f c = .ok i := by
  have hall := mapM_ok_iff.1 h
  clear h
  induction hall with
  | nil => cases hc
  | cons hd _ ih =>
    rcases List.mem_cons.1 hc with rfl | hc
    · exact ⟨_, List.mem_cons_self, hd⟩
    · obtain ⟨i, hi, hok⟩ := ih hc
      exact ⟨i, List.mem_cons_of_mem _ hi, hok⟩

lemma mem_of_mapM {i : α} (h : cs.mapM f = .ok is) (hi : i ∈ is) : ∃ c ∈ cs, f c = .ok i := by
  have hall := mapM_ok_iff.1 h
  clear h
  induction hall with
  | nil => cases hi
  | cons hd _ ih =>
    rcases List.mem_cons.1 hi with rfl | hi
    · exact ⟨_, List.mem_cons_self, hd⟩
    · obtain ⟨c, hc, hok⟩ := ih hi
      exact ⟨c, List.mem_cons_of_mem _ hc, hok⟩

lemma mapM_cons_eq_ok (h : (c :: cs).mapM f = .ok is) : ∃ i js, f c = .ok i ∧ cs.mapM f = .ok js ∧ is = i :: js := by
  obtain ⟨i, js, hi, hjs, rfl⟩ := List.forall₂_cons_left_iff.1 (mapM_ok_iff.1 h)
  exact ⟨i, js, hi, mapM_ok_iff.2 hjs, rfl⟩

/-- Where a list fails, it fails at a class after others that succeed. -/
lemma split_of_mapM (h : cs.mapM f = .error e) :
    ∃ before c after, cs = before ++ c :: after ∧ (∀ b ∈ before, ∃ i, f b = .ok i) ∧ f c = .error e := by
  induction cs with
  | nil => cases h
  | cons c cs ih =>
    cases hc : f c with
    | error e' =>
      rw [mapM_of_error hc] at h
      cases h
      exact ⟨[], c, cs, rfl, by simp, hc⟩
    | ok i =>
      rw [mapM_of_ok hc] at h
      cases hcs : cs.mapM f with
      | ok is =>
        rw [hcs] at h
        cases h
      | error e' =>
        rw [hcs] at h
        cases h
        obtain ⟨before, d, after, rfl, hbefore, hd⟩ := ih hcs
        refine ⟨c :: before, d, after, rfl, ?_, hd⟩
        intro b hb
        rcases List.mem_cons.1 hb with rfl | hb
        · exact ⟨i, hc⟩
        · exact hbefore b hb

lemma mapM_of_split (hbefore : ∀ b ∈ before, f b = .error e ∨ ∃ i, f b = .ok i) (hc : f c = .error e) :
    (before ++ c :: after).mapM f = .error e := by
  induction before with
  | nil => exact mapM_of_error hc
  | cons b before ih =>
    have hrest := ih fun b hb => hbefore b (List.mem_cons_of_mem _ hb)
    rcases hbefore b List.mem_cons_self with hb | ⟨i, hb⟩
    · exact mapM_of_error hb
    · rw [List.cons_append, mapM_of_ok hb, hrest]
      rfl

/-- A list that does not fail with `e` comes to the same with a function that differs only where that failure is. -/
lemma mapM_eq_of_ne (hfg : ∀ c, f c ≠ .error e → g c = f c) (h : cs.mapM f ≠ .error e) : cs.mapM g = cs.mapM f := by
  induction cs with
  | nil => rfl
  | cons c cs ih =>
    cases hc : f c with
    | error e' =>
      rw [mapM_of_error hc] at h ⊢
      have hne : f c ≠ .error e := by
        rw [hc]
        exact fun heq => h (congrArg Except.error (Except.error.inj heq))
      exact mapM_of_error ((hfg c hne).trans hc)
    | ok i =>
      have hg : g c = .ok i := by rw [hfg c (by simp [hc]), hc]
      rw [mapM_of_ok hc] at h ⊢
      rw [mapM_of_ok hg, ih]
      intro hcs
      rw [hcs] at h
      exact h rfl

end Lists

/-! ## More steps -/

variable {h : Hierarchy} {c d : String} {n m : Nat} {info : Java.ClassInfo}

lemma assemble_of_error {e : LoadError} (hc : h c = .error e) : h.assemble (n + 1) c = .error e := by
  rw [assemble, hc]
  rfl

lemma assemble_of_ok {o : Outline} (hc : h c = .ok o) :
    h.assemble (n + 1) c = (o.supertypes.mapM (h.assemble n)).map o.complete := by
  rw [assemble, hc]
  simp only [bind, Except.bind]
  cases o.supertypes.mapM (h.assemble n) <;> rfl

/-- What does not hang on the number of steps is the same with more steps. -/
theorem assemble_of_le (hle : n ≤ m) (hne : h.assemble n c ≠ .error .cyclicInheritance) :
    h.assemble m c = h.assemble n c := by
  induction n generalizing m c with
  | zero => exact absurd rfl hne
  | succ n ih =>
    obtain ⟨m, rfl⟩ : ∃ k, m = k + 1 := ⟨m - 1, by omega⟩
    cases hc : h c with
    | error e => rw [assemble_of_error hc, assemble_of_error hc]
    | ok o =>
      rw [assemble_of_ok hc] at hne ⊢
      rw [assemble_of_ok hc, mapM_eq_of_ne fun b hb => ih (by omega) hb]
      intro hcyclic
      rw [hcyclic] at hne
      exact hne rfl

lemma assemble_of_ok_of_le (hle : n ≤ m) (hok : h.assemble n c = .ok info) : h.assemble m c = .ok info := by
  rw [assemble_of_le hle (by simp [hok]), hok]

lemma assemble_eq_of_loadable (hload : h.Loadable c) :
    h.assemble n c = .error .cyclicInheritance ∨ ∃ info, h.assemble n c = .ok info := by
  obtain ⟨m, info, hok⟩ := hload
  by_cases hne : h.assemble n c = .error .cyclicInheritance
  · exact .inl hne
  · refine .inr ⟨info, ?_⟩
    rw [← assemble_of_le (Nat.le_max_left n m) hne]
    exact assemble_of_ok_of_le (Nat.le_max_right n m) hok

/-! ## Supertypes -/

lemma HangsOn.extends (hcd : h.HangsOn c d) : h.Extends c d := by
  obtain ⟨o, before, after, ho, hsplit, -⟩ := hcd
  exact ⟨o, ho, by simp [hsplit]⟩

/-- The supertypes of a class that is put together are, with one step less. -/
lemma assemble_of_extends (hok : h.assemble (n + 1) c = .ok info) (hcd : h.Extends c d) :
    ∃ info, h.assemble n d = .ok info := by
  obtain ⟨o, ho, hd⟩ := hcd
  rw [assemble_of_ok ho] at hok
  cases hmap : o.supertypes.mapM (h.assemble n) with
  | error e =>
    rw [hmap] at hok
    cases hok
  | ok infos =>
    obtain ⟨i, -, hi⟩ := ok_of_mem hmap hd
    exact ⟨i, hi⟩

lemma assemble_of_transGen (hok : h.assemble n c = .ok info) (hcd : Relation.TransGen h.Extends c d) :
    ∃ m < n, ∃ info, h.assemble m d = .ok info := by
  induction hcd with
  | single hcd =>
    cases n with
    | zero => cases hok
    | succ n => exact ⟨n, Nat.lt_succ_self n, assemble_of_extends hok hcd⟩
  | tail _ hde ih =>
    obtain ⟨m, hm, i, hi⟩ := ih
    cases m with
    | zero => cases hi
    | succ m => exact ⟨m, by omega, assemble_of_extends hi hde⟩

lemma Loadable.of_reflTransGen (hload : h.Loadable c) (hcd : Relation.ReflTransGen h.Extends c d) : h.Loadable d := by
  rcases Relation.reflTransGen_iff_eq_or_transGen.1 hcd with rfl | hcd
  · exact hload
  · obtain ⟨n, info, hok⟩ := hload
    obtain ⟨m, -, hd⟩ := assemble_of_transGen hok hcd
    exact ⟨m, hd⟩

/-- A class that is put together does not come back to itself. -/
lemma Loadable.not_transGen (hload : h.Loadable c) : ¬Relation.TransGen h.Extends c c := by
  intro hcc
  obtain ⟨n, info, hok⟩ := hload
  induction n using Nat.strongRecOn generalizing info with
  | ind n ih =>
    obtain ⟨m, hm, i, hi⟩ := assemble_of_transGen hok hcc
    exact ih m hm i hi

lemma Loadable.not_hangsOn (hload : h.Loadable c) : ¬Relation.TransGen h.HangsOn c c :=
  fun hcc => hload.not_transGen (Relation.TransGen.mono (fun _ _ => HangsOn.extends) _ _ hcc)

/-- A class above which all classes are put together is put together. -/
lemma Loadable.of_supertypes {o : Outline} (ho : h c = .ok o) (hsupers : ∀ d ∈ o.supertypes, h.Loadable d) :
    h.Loadable c := by
  have hall : ∀ ds : List String, (∀ d ∈ ds, h.Loadable d) → ∃ n, ∀ d ∈ ds, ∃ info, h.assemble n d = .ok info := by
    intro ds hds
    induction ds with
    | nil => exact ⟨0, by simp⟩
    | cons d ds ih =>
      obtain ⟨n, hn⟩ := ih fun e he => hds e (List.mem_cons_of_mem _ he)
      obtain ⟨m, info, hm⟩ := hds d List.mem_cons_self
      refine ⟨max m n, List.forall_mem_cons.2 ⟨⟨info, assemble_of_ok_of_le (Nat.le_max_left m n) hm⟩, fun e he => ?_⟩⟩
      obtain ⟨i, hi⟩ := hn e he
      exact ⟨i, assemble_of_ok_of_le (Nat.le_max_right m n) hi⟩
  obtain ⟨n, hn⟩ := hall o.supertypes hsupers
  cases hmap : o.supertypes.mapM (h.assemble n) with
  | ok infos => exact ⟨n + 1, o.complete infos, by rw [assemble_of_ok ho, hmap]; rfl⟩
  | error e =>
    obtain ⟨before, d, after, hsplit, -, hd⟩ := split_of_mapM hmap
    obtain ⟨info, hinfo⟩ := hn d (by simp [hsplit])
    rw [hd] at hinfo
    cases hinfo

lemma Loadable.isDescribed (hload : h.Loadable c) : h.IsDescribed c := by
  intro d hcd
  obtain ⟨n, info, hok⟩ := hload.of_reflTransGen hcd
  cases hd : h d with
  | ok o => exact ⟨o, rfl⟩
  | error e =>
    cases n with
    | zero => cases hok
    | succ n =>
      rw [assemble_of_error hd] at hok
      cases hok

lemma Loadable.isAcyclic (hload : h.Loadable c) : h.IsAcyclic c :=
  fun _ hcd => (hload.of_reflTransGen hcd).not_transGen

/-! ## Classes that come back to themselves -/

lemma HangsOn.assemble_ne (hcd : h.HangsOn c d) (hne : h.assemble (n + 1) c ≠ .error .cyclicInheritance) :
    h.assemble n d ≠ .error .cyclicInheritance := by
  obtain ⟨o, before, after, ho, hsplit, hbefore⟩ := hcd
  intro hd
  have hmap : (before ++ d :: after).mapM (h.assemble n) = .error .cyclicInheritance :=
    mapM_of_split (fun b hb => assemble_eq_of_loadable (hbefore b hb)) hd
  rw [assemble_of_ok ho, hsplit, hmap] at hne
  exact hne rfl

lemma assemble_ne_of_transGen (hne : h.assemble n c ≠ .error .cyclicInheritance)
    (hcd : Relation.TransGen h.HangsOn c d) : ∃ m < n, h.assemble m d ≠ .error .cyclicInheritance := by
  induction hcd with
  | single hcd =>
    cases n with
    | zero => exact absurd rfl hne
    | succ n => exact ⟨n, Nat.lt_succ_self n, hcd.assemble_ne hne⟩
  | tail _ hde ih =>
    obtain ⟨m, hm, hd⟩ := ih
    cases m with
    | zero => exact absurd rfl hd
    | succ m => exact ⟨m, by omega, hde.assemble_ne hd⟩

/-- A class that hangs on itself is cut off after any number of steps. -/
lemma assemble_of_cycle (hcc : Relation.TransGen h.HangsOn c c) : h.assemble n c = .error .cyclicInheritance := by
  induction n using Nat.strongRecOn with
  | ind n ih =>
    by_contra hne
    obtain ⟨m, hm, hc⟩ := assemble_ne_of_transGen hne hcc
    exact hc (ih m hm)

lemma hangsOn_of_assemble (hcyclic : h.assemble (n + 1) c = .error .cyclicInheritance) :
    h c = .error .cyclicInheritance ∨ ∃ d, h.HangsOn c d ∧ h.assemble n d = .error .cyclicInheritance := by
  cases hc : h c with
  | error e =>
    rw [assemble_of_error hc] at hcyclic
    exact .inl (congrArg Except.error (Except.error.inj hcyclic))
  | ok o =>
    rw [assemble_of_ok hc] at hcyclic
    cases hmap : o.supertypes.mapM (h.assemble n) with
    | ok infos =>
      rw [hmap] at hcyclic
      cases hcyclic
    | error e =>
      rw [hmap] at hcyclic
      cases hcyclic
      obtain ⟨before, d, after, hsplit, hbefore, hd⟩ := split_of_mapM hmap
      exact .inr ⟨d, ⟨o, before, after, hc, hsplit, fun b hb => ⟨n, hbefore b hb⟩⟩, hd⟩

/-! ## Room to go up -/

/-- The classes with supertypes are among the known ones. -/
def CoveredBy (h : Hierarchy) (known : List String) : Prop :=
  ∀ c outline, h c = .ok outline → outline.supertypes ≠ [] → c ∈ known

/-- The steps left at `c` and the classes on the way to it are more than the known classes. -/
structure Room (h : Hierarchy) (known way : List String) (depth : Nat) (c : String) : Prop where
  nodup : way.Nodup
  within : way ⊆ known
  leads : ∀ b ∈ way, Relation.TransGen h.HangsOn b c
  enough : known.length < depth + way.length

variable {known way : List String}

lemma Room.start (hlt : known.length < n) : h.Room known [] n c :=
  ⟨List.nodup_nil, List.nil_subset _, by simp, by simpa using hlt⟩

lemma Room.pos (hroom : h.Room known way n c) : 0 < n := by
  have hle := List.Nodup.length_le_of_subset hroom.nodup hroom.within
  have hlt := hroom.enough
  omega

lemma Room.up (hroom : h.Room known way (n + 1) c) (hcover : h.CoveredBy known) (hfresh : c ∉ way)
    (hcd : h.HangsOn c d) : h.Room known (c :: way) n d where
  nodup := List.nodup_cons.2 ⟨hfresh, hroom.nodup⟩
  within := by
    obtain ⟨o, before, after, ho, hsplit, -⟩ := hcd
    exact List.cons_subset.2 ⟨hcover c o ho (by simp [hsplit]), hroom.within⟩
  leads := by
    intro b hb
    rcases List.mem_cons.1 hb with rfl | hb
    · exact .single hcd
    · exact (hroom.leads b hb).tail hcd
  enough := by
    have hlt := hroom.enough
    simp only [List.length_cons]
    omega

/-- Where there is room, a class is cut off only if a class above it comes back to itself, or is reported so. -/
theorem exists_cycle (hcover : h.CoveredBy known) (hroom : h.Room known way n c)
    (hcyclic : h.assemble n c = .error .cyclicInheritance) :
    ∃ d, Relation.ReflTransGen h.HangsOn c d ∧ (h d = .error .cyclicInheritance ∨ Relation.TransGen h.HangsOn d d) := by
  induction n generalizing c way with
  | zero => exact absurd hroom.pos (Nat.lt_irrefl 0)
  | succ n ih =>
    by_cases hway : c ∈ way
    · exact ⟨c, .refl, .inr (hroom.leads c hway)⟩
    · rcases hangsOn_of_assemble hcyclic with hc | ⟨b, hcb, hb⟩
      · exact ⟨c, .refl, .inl hc⟩
      · obtain ⟨d, hbd, hd⟩ := ih (hroom.up hcover hway hcb) hb
        exact ⟨d, .head hcb hbd, hd⟩

lemma assemble_of_exists_cycle (hcd : Relation.ReflTransGen h.HangsOn c d)
    (hd : h d = .error .cyclicInheritance ∨ Relation.TransGen h.HangsOn d d) :
    h.assemble n c = .error .cyclicInheritance := by
  have hstuck : ∀ m, h.assemble m d = .error .cyclicInheritance := by
    intro m
    rcases hd with hd | hd
    · cases m with
      | zero => rfl
      | succ m => exact assemble_of_error hd
    · exact assemble_of_cycle hd
  rcases Relation.reflTransGen_iff_eq_or_transGen.1 hcd with rfl | hcd
  · exact hstuck n
  · by_contra hne
    obtain ⟨m, -, hm⟩ := assemble_ne_of_transGen hne hcd
    exact hm (hstuck m)

/-- Where there is room, a class comes to what it comes to with any number of steps that are enough. -/
theorem Room.assemble_eq (hroom : h.Room known way n c) (hcover : h.CoveredBy known)
    (hne : h.assemble m c ≠ .error .cyclicInheritance) : h.assemble n c = h.assemble m c := by
  by_cases hcyclic : h.assemble n c = .error .cyclicInheritance
  · obtain ⟨d, hcd, hd⟩ := exists_cycle hcover hroom hcyclic
    exact absurd (assemble_of_exists_cycle hcd hd) hne
  · rw [← assemble_of_le (Nat.le_max_left n m) hcyclic, assemble_of_le (Nat.le_max_right n m) hne]

lemma IsDescribed.of_extends (hdescribed : h.IsDescribed c) (hcd : h.Extends c d) : h.IsDescribed d :=
  fun _ hde => hdescribed _ (.head hcd hde)

lemma IsDescribed.eq_cyclicInheritance {e : LoadError} (hdescribed : h.IsDescribed c)
    (herror : h.assemble n c = .error e) : e = .cyclicInheritance := by
  induction n generalizing c with
  | zero =>
    cases herror
    rfl
  | succ n ih =>
    obtain ⟨o, ho⟩ := hdescribed c .refl
    rw [assemble_of_ok ho] at herror
    cases hmap : o.supertypes.mapM (h.assemble n) with
    | ok infos =>
      rw [hmap] at herror
      cases herror
    | error e' =>
      rw [hmap] at herror
      cases herror
      obtain ⟨before, d, after, hsplit, -, hd⟩ := split_of_mapM hmap
      exact ih (hdescribed.of_extends ⟨o, ho, by simp [hsplit]⟩) hd

/-- In an acyclic hierarchy that is described a class is put together. -/
theorem IsAcyclic.exists_assemble (hacyclic : h.IsAcyclic c) (hdescribed : h.IsDescribed c) (hcover : h.CoveredBy known)
    (hlt : known.length < n) : ∃ info, h.assemble n c = .ok info := by
  cases hc : h.assemble n c with
  | ok info => exact ⟨info, rfl⟩
  | error e =>
    rw [hdescribed.eq_cyclicInheritance hc] at hc
    obtain ⟨d, hcd, hd⟩ := exists_cycle hcover (Room.start hlt) hc
    have hreach := Relation.ReflTransGen.mono (fun _ _ => HangsOn.extends) _ _ hcd
    rcases hd with hd | hd
    · obtain ⟨o, ho⟩ := hdescribed d hreach
      rw [ho] at hd
      cases hd
    · exact absurd (Relation.TransGen.mono (fun _ _ => HangsOn.extends) _ _ hd) (hacyclic d hreach)

end Hierarchy

end Typings
