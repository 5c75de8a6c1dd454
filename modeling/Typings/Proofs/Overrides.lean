import Typings.Proofs.Lineages

/-!
# Overridden methods

A class takes a method over from the first class in its lineage that hands down the key. Where each class stands in the
lineage after those that extend it, no class overrides a method that is taken over. Otherwise one may: a superclass that
implements an interface comes before another interface which refines that one.
-/

namespace Typings.Javap

variable {settings : Settings} {host : Host} {c d e : String} {cs : List String} {l k : Listing} {m : Java.Method}
  {ts above : List (String × Listing)}

/-- A class whose supertypes have the lineage `above`, and which declares `l` itself, has the method from `d`: nothing
before it has the key. -/
def TakenFrom (l : Listing) (above : List (String × Listing)) (d : String) (m : Java.Method) : Prop :=
  m.key ∉ l.publicMethods.map Java.Method.key ∧
    ∃ front k back earlier later, above = front ++ (d, k) :: back ∧ k.handedDown = earlier ++ m :: later ∧
      ∀ m' ∈ front.flatMap (·.2.handedDown) ++ earlier, m'.key ≠ m.key

/-- Each class stands in the lineage after those that extend it. -/
def SubtypesFirst (ts : List (String × Listing)) : Prop :=
  ∀ i (hi : i < ts.length), ∀ u ∈ ts, ts[i].1 ∈ u.2.supertypes u.1 → u.1 ∈ (ts.take i).map (·.1)

instance (ts : List (String × Listing)) : Decidable (SubtypesFirst ts) :=
  inferInstanceAs (Decidable (∀ i (hi : i < ts.length), ∀ u ∈ ts, ts[i].1 ∈ u.2.supertypes u.1 →
    u.1 ∈ (ts.take i).map (·.1)))

/-! ## The class that a method is taken over from -/

lemma exists_split_of_flatMap {α β : Type} {f : α → List β} {as : List α} {b : β} {before after : List β}
    (h : as.flatMap f = before ++ b :: after) :
    ∃ front a back earlier later, as = front ++ a :: back ∧ f a = earlier ++ b :: later ∧
      before = front.flatMap f ++ earlier := by
  induction as generalizing before with
  | nil => simp at h
  | cons a as ih =>
    have hrest : ∀ x, as.flatMap f = x ++ b :: after → before = f a ++ x → ∃ front a' back earlier later,
        a :: as = front ++ a' :: back ∧ f a' = earlier ++ b :: later ∧ before = front.flatMap f ++ earlier := by
      intro x hx hbefore
      obtain ⟨front, a', back, earlier, later, rfl, ha', rfl⟩ := ih hx
      refine ⟨a :: front, a', back, earlier, later, rfl, ha', ?_⟩
      rw [hbefore, List.flatMap_cons, List.append_assoc]
    rw [List.flatMap_cons] at h
    rcases List.append_eq_append_iff.1 h with ⟨x, hbefore, hx⟩ | ⟨x, hfa, hx⟩
    · exact hrest x hx hbefore
    · cases x with
      | nil => exact hrest [] hx.symm (by simpa using hfa.symm)
      | cons y x =>
        obtain ⟨rfl, -⟩ := List.cons_eq_cons.1 hx
        exact ⟨[], a, as, before, x, rfl, hfa, rfl⟩

/-- The inherited methods are those that are taken over from some class. -/
lemma mem_firstOfKey_iff_takenFrom :
    m ∈ Java.firstOfKey (l.publicMethods.map Java.Method.key) (above.flatMap (·.2.handedDown)) ↔
      ∃ d, TakenFrom l above d m := by
  rw [Java.mem_firstOfKey_iff]
  constructor
  · rintro ⟨hown, before, after, hsplit, hbefore⟩
    obtain ⟨front, ⟨d, k⟩, back, earlier, later, hline, hk, rfl⟩ := exists_split_of_flatMap hsplit
    exact ⟨d, hown, front, k, back, earlier, later, hline, hk, hbefore⟩
  · rintro ⟨d, hown, front, k, back, earlier, later, rfl, hk, hbefore⟩
    refine ⟨hown, _, later ++ back.flatMap (·.2.handedDown), ?_, hbefore⟩
    rw [List.flatMap_append, List.flatMap_cons, hk]
    simp only [List.append_assoc, List.cons_append]

/-! ## Classes between -/

lemma SubtypesFirst.mem_of_extends (hts : Lineage settings host cs ts) (hfirst : SubtypesFirst ts)
    {front back : List (String × Listing)} (hsplit : ts = front ++ (d, k) :: back)
    (he : ∃ c ∈ cs, Relation.ReflTransGen (hierarchy settings host).Extends c e)
    (hed : (hierarchy settings host).Extends e d) : e ∈ front.map (·.1) := by
  obtain ⟨c, hc, hce⟩ := he
  obtain ⟨k', hk', hd⟩ := extends_iff.1 hed
  have hmem := hts.mem_of_reaches hc hce hk'
  have hlt : front.length < ts.length := by simp [hsplit]
  have hat := hfirst front.length hlt (e, k') hmem (by simpa [hsplit] using hd)
  simpa [hsplit] using hat

/-- In such a lineage all classes that lead from below to a class stand before it. -/
lemma SubtypesFirst.mem_of_transGen (hts : Lineage settings host cs ts) (hfirst : SubtypesFirst ts)
    {front back : List (String × Listing)} (hsplit : ts = front ++ (d, k) :: back)
    (he : ∃ c ∈ cs, Relation.ReflTransGen (hierarchy settings host).Extends c e)
    (hed : Relation.TransGen (hierarchy settings host).Extends e d) : e ∈ front.map (·.1) := by
  induction hed using Relation.TransGen.head_induction_on with
  | single hed => exact hfirst.mem_of_extends hts hsplit he hed
  | @head e f hef hfd ih =>
    obtain ⟨c, hc, hce⟩ := he
    have hf := ih ⟨c, hc, hce.tail hef⟩
    obtain ⟨t, ht, rfl⟩ := List.mem_map.1 hf
    obtain ⟨before, after, rfl⟩ := List.append_of_mem ht
    have hsplit' : ts = before ++ (t.1, t.2) :: (after ++ (d, k) :: back) := by
      rw [hsplit, List.append_assoc, List.cons_append]
    have hin := hfirst.mem_of_extends hts hsplit' ⟨c, hc, hce⟩ hef
    simp only [List.map_append, List.mem_append]
    exact .inl hin

lemma mem_handedDown_of_not_static (hm : m ∈ l.methods) (hpublic : m.modifiers.isPublic)
    (hstatic : m.modifiers.isStatic = false) : m ∈ l.handedDown := by
  refine List.mem_filter.2 ⟨List.mem_filter.2 ⟨hm, hpublic⟩, ?_⟩
  rw [hstatic, Bool.and_false, Bool.not_false]

/-- The inherited methods of a class are those that it takes over from the classes above it. If each class stands in the
lineage after those that extend it, none of these methods is overridden: no class that lies between the two declares a
public method with its key, other than a static one. -/
theorem taken_over_not_overridden (settings : Settings) (host : Host) (c : String) (before : List String)
    (hc : Regular settings host c) (hfirst : ∀ ts, Lineage settings host [c] ts → SubtypesFirst ts) :
    ∃ l above info, declared settings host c = .ok l ∧ Lineage settings host [c] ((c, l) :: above) ∧
      (client settings host).answerAfter [] before c = .ok info ∧
      (∀ m, m ∈ info.methods ↔ m ∈ l.publicMethods ∨ ∃ d, TakenFrom l above d m) ∧
      ∀ d m, TakenFrom l above d m → ∀ e k, Relation.ReflTransGen (hierarchy settings host).Extends c e →
        Relation.TransGen (hierarchy settings host).Extends e d → declared settings host e = .ok k →
          ∀ m' ∈ k.methods, m'.modifiers.isPublic → m'.modifiers.isStatic = false → m'.key ≠ m.key := by
  obtain ⟨l, above, info, hl, habove, hinfo, -, hmethods⟩ := hc.exists_answerAfter before
  have hline := Lineage.singleton hl habove
  refine ⟨l, above, info, hl, hline, hinfo, fun m => ?_, ?_⟩
  · rw [hmethods, List.mem_append, mem_firstOfKey_iff_takenFrom]
  · rintro d m ⟨hown, front, kd, back, earlier, later, hsplit, -, hbefore⟩ e k hce hed hk m' hm' hpublic hstatic hkey
    have hsplit' : (c, l) :: above = ((c, l) :: front) ++ (d, kd) :: back := by
      rw [hsplit]
      rfl
    have hin := (hfirst _ hline).mem_of_transGen hline hsplit' ⟨c, List.mem_singleton_self c, hce⟩ hed
    obtain ⟨t, ht, rfl⟩ := List.mem_map.1 hin
    have hdeclared := (hline.reaches t (hsplit' ▸ List.mem_append_left _ ht)).1
    rw [hk] at hdeclared
    cases hdeclared
    rcases List.mem_cons.1 ht with rfl | ht
    · exact hown (hkey ▸ List.mem_map_of_mem (List.mem_filter.2 ⟨hm', hpublic⟩))
    · have hdown := mem_handedDown_of_not_static hm' hpublic hstatic
      exact hbefore m' (List.mem_append_left _ (List.mem_flatMap.2 ⟨t, ht, hdown⟩)) hkey

/-- An interface refines another one. `w.Lines` names both, and `w.Reader` has the refined one from its superclass. -/
def Host.refined : Host where
  located? := some "javap"
  outcomes :=
    [lists "java.lang.Object" "public class java.lang.Object \x7b\n\x7d\n",
     lists "w.Source" "public interface w.Source \x7b\n  w.Source skip();\n    descriptor: ()Lw/Source;\n\x7d\n",
     lists "w.Texts" "public interface w.Texts extends w.Source \x7b\n  w.Texts skip();\n    descriptor: ()Lw/Texts;\n\x7d\n",
     lists "w.Lines" "public abstract class w.Lines implements w.Texts, w.Source \x7b\n\x7d\n",
     lists "w.Base" "public abstract class w.Base implements w.Source \x7b\n\x7d\n",
     lists "w.Reader" "public abstract class w.Reader extends w.Base implements w.Texts \x7b\n\x7d\n"]

lemma declared_refined_object : declared {} Host.refined "java.lang.Object" =
    .ok ⟨"java.lang.Object", ⟨1⟩, false, none, [], [], [], []⟩ := by decide +kernel

lemma declared_refined_source : declared {} Host.refined "w.Source" =
    .ok ⟨"w.Source", ⟨1537⟩, true, none, [], [], [⟨"skip", [], "w.Source", ⟨1⟩⟩], []⟩ := by decide +kernel

lemma declared_refined_texts : declared {} Host.refined "w.Texts" =
    .ok ⟨"w.Texts", ⟨1537⟩, true, none, ["w.Source"], [], [⟨"skip", [], "w.Texts", ⟨1⟩⟩], []⟩ := by decide +kernel

lemma lineage_refined_source : Lineage {} Host.refined ["w.Source"]
    [("w.Source", ⟨"w.Source", ⟨1537⟩, true, none, [], [], [⟨"skip", [], "w.Source", ⟨1⟩⟩], []⟩)] :=
  .singleton declared_refined_source .nil

/-- Where the refining interface comes first, its method is reported. -/
theorem taken_over_not_overridden_refined :
    Regular {} Host.refined "w.Lines" ∧ (∀ ts, Lineage {} Host.refined ["w.Lines"] ts → SubtypesFirst ts) ∧
    ∃ l above info, Lineage {} Host.refined ["w.Lines"] (("w.Lines", l) :: above) ∧
      (client {} Host.refined).answerAfter [] ["w.Source"] "w.Lines" = .ok info ∧
      TakenFrom l above "w.Texts" ⟨"skip", [], "w.Texts", ⟨1⟩⟩ ∧ ⟨"skip", [], "w.Texts", ⟨1⟩⟩ ∈ info.methods ∧
      ¬TakenFrom l above "w.Source" ⟨"skip", [], "w.Source", ⟨1⟩⟩ := by
  have hlines : declared {} Host.refined "w.Lines" =
      .ok ⟨"w.Lines", ⟨1025⟩, false, none, ["w.Texts", "w.Source"], [], [], []⟩ := by decide +kernel
  have hline := Lineage.singleton hlines (.cons declared_refined_object .nil
    (.cons declared_refined_texts lineage_refined_source lineage_refined_source))
  have hregular : Regular {} Host.refined "w.Lines" := .of_lineage hline (by decide) (by decide)
  have hfirst : ∀ ts, Lineage {} Host.refined ["w.Lines"] ts → SubtypesFirst ts := by
    intro ts hts
    rw [hts.unique hline]
    decide
  obtain ⟨l, above, info, hl, hlines', hinfo, hmethods, hover⟩ :=
    taken_over_not_overridden {} Host.refined "w.Lines" ["w.Source"] hregular hfirst
  obtain ⟨heq, rfl⟩ := List.cons_eq_cons.1 (hlines'.unique hline)
  cases heq
  refine ⟨hregular, hfirst, _, _, info, hlines', hinfo, ?taken, (hmethods _).2 (.inr ⟨"w.Texts", ?taken⟩), fun hsource => ?_⟩
  · exact ⟨by decide, [("java.lang.Object", _)], _, _, [], [], rfl, rfl, by decide⟩
  · refine hover "w.Source" _ hsource "w.Texts" _ ?_ ?_ declared_refined_texts _ List.mem_cons_self (by decide) (by decide) rfl
    · exact .single (extends_iff.2 ⟨_, hlines, by decide⟩)
    · exact .single (extends_iff.2 ⟨_, declared_refined_texts, by decide⟩)

/-- Otherwise the method of the refined interface is reported, although `w.Texts`, which extends that interface and is
above the class too, overrides it. -/
theorem overridden_reported_refined :
    Regular {} Host.refined "w.Reader" ∧
    ∃ l above info, declared {} Host.refined "w.Reader" = .ok l ∧
      Lineage {} Host.refined ["w.Reader"] (("w.Reader", l) :: above) ∧
      (client {} Host.refined).answerAfter [] [] "w.Reader" = .ok info ∧
      info.methods = [⟨"skip", [], "w.Source", ⟨1⟩⟩] ∧ TakenFrom l above "w.Source" ⟨"skip", [], "w.Source", ⟨1⟩⟩ ∧
      ¬∀ d m, TakenFrom l above d m → ∀ e k, Relation.ReflTransGen (hierarchy {} Host.refined).Extends "w.Reader" e →
        Relation.TransGen (hierarchy {} Host.refined).Extends e d → declared {} Host.refined e = .ok k →
          ∀ m' ∈ k.methods, m'.modifiers.isPublic → m'.modifiers.isStatic = false → m'.key ≠ m.key := by
  have hbase : declared {} Host.refined "w.Base" =
      .ok ⟨"w.Base", ⟨1025⟩, false, none, ["w.Source"], [], [], []⟩ := by decide +kernel
  have hreader : declared {} Host.refined "w.Reader" =
      .ok ⟨"w.Reader", ⟨1025⟩, false, some "w.Base", ["w.Texts"], [], [], []⟩ := by decide +kernel
  have hline := Lineage.singleton hreader (.cons hbase (.cons declared_refined_object .nil lineage_refined_source)
    (.singleton declared_refined_texts lineage_refined_source))
  have hregular : Regular {} Host.refined "w.Reader" := .of_lineage hline (by decide) (by decide)
  obtain ⟨l, above, info, hl, habove, hinfo, -, hmethods⟩ := hregular.exists_answerAfter []
  obtain ⟨heq, rfl⟩ := List.cons_eq_cons.1 ((Lineage.singleton hl habove).unique hline)
  cases heq
  refine ⟨hregular, _, _, info, hl, hline, hinfo, ?_, ?taken, fun hnone => ?_⟩
  · rw [hmethods]
    decide
  · exact ⟨by decide, [("w.Base", _), ("java.lang.Object", _)], _, _, [], [], rfl, rfl, by decide⟩
  · refine hnone "w.Source" _ ?taken "w.Texts" _ ?_ ?_ declared_refined_texts _ List.mem_cons_self (by decide) (by decide) rfl
    · exact .single (extends_iff.2 ⟨_, hreader, by decide⟩)
    · exact .single (extends_iff.2 ⟨_, declared_refined_texts, by decide⟩)

end Typings.Javap
