import Typings.Proofs.FirstMethods
import Typings.Proofs.ListedOnce

/-!
# The members of a class in the order of its lineage

The lineage of a class is the class followed by the lineages of its supertypes. Classes are merged one level at a time,
from supertypes that are merged already; the result is nevertheless what one pass over the lineage gives: all public
fields, and of the public methods that are handed down the first of each key.
-/

namespace Typings.Javap

variable {settings : Settings} {host : Host} {c d : String} {cs names : List String} {l : Listing} {n : Nat}
  {info : Java.ClassInfo} {infos : List Java.ClassInfo} {ts us above : List (String × Listing)}

/-! ## What a class declares for others -/

/-- The public fields among those a class declares. -/
def Listing.publicFields (l : Listing) : List Java.Field :=
  l.fields.filter (·.modifiers.isPublic)

/-- The public methods among those a class declares. -/
def Listing.publicMethods (l : Listing) : List Java.Method :=
  l.methods.filter (·.modifiers.isPublic)

/-- The declared public methods that subclasses inherit; static methods of interfaces are not among them. -/
def Listing.handedDown (l : Listing) : List Java.Method :=
  l.publicMethods.filter fun m => !(l.isInterface && m.modifiers.isStatic)

/-- The declared public methods that subclasses do not inherit. -/
def Listing.keptBack (l : Listing) : List Java.Method :=
  l.publicMethods.filter fun m => l.isInterface && m.modifiers.isStatic

lemma handedDown_subset (l : Listing) : l.handedDown ⊆ l.publicMethods :=
  List.filter_subset_self _

lemma mem_handedDown_or_mem_keptBack {m : Java.Method} (hm : m ∈ l.publicMethods) :
    m ∈ l.handedDown ∨ m ∈ l.keptBack := by
  by_cases hback : l.isInterface && m.modifiers.isStatic
  · exact .inr (List.mem_filter.2 ⟨hm, hback⟩)
  · exact .inl (List.mem_filter.2 ⟨hm, by rw [eq_false_of_ne_true hback, Bool.not_false]⟩)

lemma isPublic_of_mem_publicMethods {m : Java.Method} (hm : m ∈ l.publicMethods) : m.modifiers.isPublic :=
  (List.mem_filter.1 hm).2

/-- The classes and all above them, each followed by those above it and then by the classes next to it. -/
inductive Lineage (settings : Settings) (host : Host) : List String → List (String × Listing) → Prop
  | nil : Lineage settings host [] []
  | cons {c : String} {l : Listing} {cs : List String} {above rest : List (String × Listing)} :
      declared settings host c = .ok l → Lineage settings host (l.supertypes c) above → Lineage settings host cs rest →
        Lineage settings host (c :: cs) ((c, l) :: above ++ rest)

/-- The supertypes of an interface are interfaces, for the class and all above it. -/
def ExtendsInterfaces (settings : Settings) (host : Host) (c : String) : Prop :=
  ∀ d l, Relation.ReflTransGen (hierarchy settings host).Extends c d → declared settings host d = .ok l → l.isInterface →
    ∀ e ∈ l.supertypes d, ∀ k, declared settings host e = .ok k → k.isInterface

/-- No public static method of an interface has the key of a method that the interface inherits, for the class and all
above it. -/
def KeepsStaticsApart (settings : Settings) (host : Host) (c : String) : Prop :=
  ∀ d l, Relation.ReflTransGen (hierarchy settings host).Extends c d → declared settings host d = .ok l →
    ∀ m ∈ l.keptBack, ∀ e k, Relation.TransGen (hierarchy settings host).Extends d e → declared settings host e = .ok k →
      ∀ m' ∈ k.handedDown, m'.key ≠ m.key

/-- A hierarchy as classes are compiled to have it, at a class and above. -/
structure Regular (settings : Settings) (host : Host) (c : String) : Prop where
  described : (hierarchy settings host).IsDescribed c
  acyclic : (hierarchy settings host).IsAcyclic c
  interfaces : ExtendsInterfaces settings host c
  statics : KeepsStaticsApart settings host c

lemma ExtendsInterfaces.of_extends (h : ExtendsInterfaces settings host c)
    (hcd : (hierarchy settings host).Extends c d) : ExtendsInterfaces settings host d :=
  fun _ _ hde => h _ _ (.head hcd hde)

lemma KeepsStaticsApart.of_extends (h : KeepsStaticsApart settings host c)
    (hcd : (hierarchy settings host).Extends c d) : KeepsStaticsApart settings host d :=
  fun _ _ hde => h _ _ (.head hcd hde)

/-! ## Lineages -/

namespace Lineage

/-- Classes have one lineage. -/
lemma unique (hts : Lineage settings host cs ts) (hus : Lineage settings host cs us) : ts = us := by
  induction hts generalizing us with
  | nil =>
    cases hus
    rfl
  | cons hl _ _ ihabove ihrest =>
    cases hus with
    | cons hl' habove' hrest' =>
      rw [hl] at hl'
      cases hl'
      rw [ihabove habove', ihrest hrest']

/-- Each class in the lineage is declared as it stands there, and it is one of the classes or above one. -/
lemma reaches (hts : Lineage settings host cs ts) : ∀ t ∈ ts, declared settings host t.1 = .ok t.2 ∧
    ∃ c ∈ cs, Relation.ReflTransGen (hierarchy settings host).Extends c t.1 := by
  induction hts with
  | nil => simp
  | @cons c l cs above rest hl _ _ ihabove ihrest =>
    intro t ht
    rcases List.mem_append.1 ht with ht | ht
    · rcases List.mem_cons.1 ht with rfl | ht
      · exact ⟨hl, c, List.mem_cons_self, .refl⟩
      · obtain ⟨hdeclared, b, hb, hbt⟩ := ihabove t ht
        exact ⟨hdeclared, c, List.mem_cons_self, .head (extends_iff.2 ⟨l, hl, hb⟩) hbt⟩
    · obtain ⟨hdeclared, b, hb, hbt⟩ := ihrest t ht
      exact ⟨hdeclared, b, List.mem_cons_of_mem _ hb, hbt⟩

/-- Each class above one of the classes, and that class itself, stands in the lineage. -/
lemma mem_of_reaches (hts : Lineage settings host cs ts) (hc : c ∈ cs)
    (hcd : Relation.ReflTransGen (hierarchy settings host).Extends c d) (hd : declared settings host d = .ok l) :
    (d, l) ∈ ts := by
  induction hts generalizing c with
  | nil => cases hc
  | @cons b k cs above rest hk _ _ ihabove ihrest =>
    rcases List.mem_cons.1 hc with rfl | hc
    · refine List.mem_append_left _ ?_
      rcases hcd.cases_head with rfl | ⟨e, hce, hed⟩
      · rw [hk] at hd
        cases hd
        exact List.mem_cons_self
      · obtain ⟨k', hk', he⟩ := extends_iff.1 hce
        rw [hk] at hk'
        cases hk'
        exact List.mem_cons_of_mem _ (ihabove he hed)
    · exact List.mem_append_right _ (ihrest hc hcd)

/-- What has a lineage is put together. -/
lemma loadable (hts : Lineage settings host cs ts) : ∀ c ∈ cs, (hierarchy settings host).Loadable c := by
  induction hts with
  | nil => simp
  | cons hl _ _ ihabove ihrest =>
    exact List.forall_mem_cons.2 ⟨Hierarchy.Loadable.of_supertypes (hierarchy_of_ok hl) ihabove, ihrest⟩

lemma singleton (hl : declared settings host c = .ok l) (habove : Lineage settings host (l.supertypes c) above) :
    Lineage settings host [c] ((c, l) :: above) := by
  have hline := Lineage.cons hl habove .nil
  rwa [List.append_nil] at hline

end Lineage

/-- A class that is put together was declared, and its supertypes were put together before. -/
lemma of_assemble_eq_ok (h : (hierarchy settings host).assemble n c = .ok info) :
    ∃ k l infos, n = k + 1 ∧ declared settings host c = .ok l ∧
      (l.supertypes c).mapM ((hierarchy settings host).assemble k) = .ok infos ∧ info = l.withInherited c infos := by
  cases n with
  | zero => cases h
  | succ k =>
    cases hl : declared settings host c with
    | error e =>
      rw [Hierarchy.assemble_of_error (hierarchy_of_error hl)] at h
      cases h
    | ok l =>
      rw [Hierarchy.assemble_of_ok (hierarchy_of_ok hl)] at h
      cases hmap : (l.supertypes c).mapM ((hierarchy settings host).assemble k) with
      | error e =>
        rw [hmap] at h
        cases h
      | ok infos =>
        rw [hmap] at h
        cases h
        exact ⟨k, l, infos, rfl, rfl, hmap, rfl⟩

/-- Classes that are put together have a lineage. -/
lemma exists_lineage (h : cs.mapM ((hierarchy settings host).assemble n) = .ok infos) :
    ∃ ts, Lineage settings host cs ts := by
  induction n generalizing cs infos with
  | zero =>
    cases cs with
    | nil => exact ⟨[], .nil⟩
    | cons c cs =>
      obtain ⟨i, -, hi, -⟩ := Hierarchy.mapM_cons_eq_ok h
      cases hi
  | succ n ih =>
    induction cs generalizing infos with
    | nil => exact ⟨[], .nil⟩
    | cons c cs ihrest =>
      obtain ⟨i, js, hi, hjs, rfl⟩ := Hierarchy.mapM_cons_eq_ok h
      obtain ⟨k, l, is, hk, hl, his, -⟩ := of_assemble_eq_ok hi
      cases hk
      obtain ⟨above, habove⟩ := ih his
      obtain ⟨rest, hrest⟩ := ihrest hjs
      exact ⟨_, .cons hl habove hrest⟩

/-! ## Merging along the lineage -/

/-- A class that is no interface hands down its public methods, and what it has from its supertypes. -/
lemma sameFirsts_of_class (hclass : l.isInterface = false)
    (hsupers : Java.SameFirsts (infos.flatMap (·.inheritable)) (ts.flatMap (·.2.handedDown))) :
    Java.SameFirsts (l.withInherited c infos).inheritable (l.handedDown ++ ts.flatMap (·.2.handedDown)) := by
  have hmethods : (l.withInherited c infos).inheritable =
      l.publicMethods ++ Java.firstOfKey (l.publicMethods.map Java.Method.key) (infos.flatMap (·.inheritable)) := by
    simp [Java.ClassInfo.inheritable, Listing.withInherited, Java.inheritMethods, Listing.publicMethods, hclass]
  have hdown : l.handedDown = l.publicMethods := by
    simp [Listing.handedDown, hclass]
  intro seen
  rw [hmethods, hdown, Java.firstOfKey_append, Java.firstOfKey_append,
    Java.firstOfKey_firstOfKey (List.subset_append_left _ _), hsupers]

/-- An interface hands down those of its public methods that are not static, and what it has from its supertypes, as
long as none of this is static or has the key of a static method. -/
lemma sameFirsts_of_interface
    (hsupers : Java.SameFirsts (infos.flatMap (·.inheritable)) (ts.flatMap (·.2.handedDown)))
    (hinfos : ∀ info ∈ infos, info.isInterface)
    (hstatics : ∀ m ∈ l.keptBack, m.key ∉ (ts.flatMap (·.2.handedDown)).map Java.Method.key) :
    Java.SameFirsts (l.withInherited c infos).inheritable (l.handedDown ++ ts.flatMap (·.2.handedDown)) := by
  have hinherited : ∀ m ∈ infos.flatMap (·.inheritable), m.modifiers.isStatic = false := by
    intro m hm
    obtain ⟨info, hinfo, hm⟩ := List.mem_flatMap.1 hm
    simpa [hinfos info hinfo] using (List.mem_filter.1 hm).2
  have hmethods : (l.withInherited c infos).inheritable =
      l.handedDown ++ Java.firstOfKey (l.publicMethods.map Java.Method.key) (infos.flatMap (·.inheritable)) := by
    rw [Java.ClassInfo.inheritable, Listing.withInherited, Java.inheritMethods, List.filter_append]
    refine congrArg _ (List.filter_eq_self.2 fun m hm => ?_)
    simp [hinherited m (Java.mem_of_mem_firstOfKey hm)]
  -- The static methods, which are not handed down, stand in nothing's way.
  have hkeys : Java.firstOfKey (l.publicMethods.map Java.Method.key) (infos.flatMap (·.inheritable)) =
      Java.firstOfKey (l.handedDown.map Java.Method.key) (infos.flatMap (·.inheritable)) := by
    refine Java.firstOfKey_congr fun m hm => ⟨fun hin => ?_, fun hin => List.map_subset _ (handedDown_subset l) hin⟩
    obtain ⟨m', hm', hkey⟩ := List.mem_map.1 hin
    rcases mem_handedDown_or_mem_keptBack hm' with hdown | hback
    · exact hkey ▸ List.mem_map_of_mem hdown
    · have hin := hsupers.mem_keys_iff.1 (List.mem_map_of_mem hm)
      exact absurd (hkey ▸ hin) (hstatics m' hback)
  intro seen
  rw [hmethods, hkeys, Java.firstOfKey_append, Java.firstOfKey_append,
    Java.firstOfKey_firstOfKey (List.subset_append_left _ _), hsupers]

/-- What classes that are put together have for their subclasses is what their lineage has. -/
theorem Lineage.merged (hts : Lineage settings host cs ts) (hinterfaces : ∀ c ∈ cs, ExtendsInterfaces settings host c)
    (hstatics : ∀ c ∈ cs, KeepsStaticsApart settings host c)
    (hinfos : cs.mapM ((hierarchy settings host).assemble n) = .ok infos) :
    infos.flatMap (·.fields) = ts.flatMap (·.2.publicFields) ∧
      Java.SameFirsts (infos.flatMap (·.inheritable)) (ts.flatMap (·.2.handedDown)) := by
  induction hts generalizing n infos with
  | nil =>
    cases hinfos
    exact ⟨rfl, fun _ => rfl⟩
  | @cons c l cs above rest hl habove _ ihabove ihrest =>
    obtain ⟨info, others, hinfo, hothers, rfl⟩ := Hierarchy.mapM_cons_eq_ok hinfos
    obtain ⟨k, l', supers, rfl, hl', hsupers, rfl⟩ := of_assemble_eq_ok hinfo
    rw [hl] at hl'
    cases hl'
    have hup : ∀ d ∈ l.supertypes c, (hierarchy settings host).Extends c d := fun d hd => extends_iff.2 ⟨l, hl, hd⟩
    have hhead := hinterfaces c List.mem_cons_self
    have hapart := hstatics c List.mem_cons_self
    obtain ⟨hfields, hmethods⟩ := ihabove (fun d hd => hhead.of_extends (hup d hd))
      (fun d hd => hapart.of_extends (hup d hd)) hsupers
    obtain ⟨hfields', hmethods'⟩ := ihrest (fun d hd => hinterfaces d (List.mem_cons_of_mem _ hd))
      (fun d hd => hstatics d (List.mem_cons_of_mem _ hd)) hothers
    have hfirst : Java.SameFirsts (l.withInherited c supers).inheritable
        (l.handedDown ++ above.flatMap (·.2.handedDown)) := by
      by_cases hinterface : l.isInterface
      · refine sameFirsts_of_interface hmethods (fun info hinfo => ?_) fun m hm hin => ?_
        · obtain ⟨d, hd, hdinfo⟩ := Hierarchy.mem_of_mapM hsupers hinfo
          obtain ⟨-, k', is, -, hk', -, rfl⟩ := of_assemble_eq_ok hdinfo
          exact hhead c l .refl hl hinterface d hd k' hk'
        · obtain ⟨m', hm', hkey⟩ := List.mem_map.1 hin
          obtain ⟨t, ht, hm'⟩ := List.mem_flatMap.1 hm'
          obtain ⟨hdeclared, d, hd, hdt⟩ := habove.reaches t ht
          exact hapart c l .refl hl m hm t.1 t.2 (.head' (hup d hd) hdt) hdeclared m' hm' hkey
      · exact sameFirsts_of_class (by simpa using hinterface) hmethods
    constructor
    · have hown : (l.withInherited c supers).fields = l.publicFields ++ supers.flatMap (·.fields) := rfl
      simp only [List.flatMap_cons, List.cons_append, List.flatMap_append, hown, hfields, hfields', List.append_assoc]
    · simp only [List.flatMap_cons, List.cons_append, List.flatMap_append]
      rw [← List.append_assoc]
      exact hfirst.append hmethods'

/-- Whether a hierarchy is regular is seen from the lineage. -/
lemma Regular.of_lineage (hts : Lineage settings host [c] ts)
    (hinterfaces : ∀ t ∈ ts, t.2.isInterface → ∀ u ∈ ts, u.1 ∈ t.2.supertypes t.1 → u.2.isInterface)
    (hstatics : ∀ t ∈ ts, ∀ m ∈ t.2.keptBack, ∀ u ∈ ts, m.key ∉ u.2.handedDown.map Java.Method.key) :
    Regular settings host c := by
  have hload := hts.loadable c List.mem_cons_self
  have hmem : ∀ d l, Relation.ReflTransGen (hierarchy settings host).Extends c d → declared settings host d = .ok l →
      (d, l) ∈ ts := fun d l hcd hd => hts.mem_of_reaches List.mem_cons_self hcd hd
  refine ⟨hload.isDescribed, hload.isAcyclic, ?_, ?_⟩
  · intro d l hcd hl hinterface e he k hk
    have hde := extends_iff.2 ⟨l, hl, he⟩
    exact hinterfaces _ (hmem d l hcd hl) hinterface _ (hmem e k (hcd.tail hde) hk) he
  · intro d l hcd hl m hm e k hde hk m' hm' hkey
    have he := hmem e k (hcd.trans hde.to_reflTransGen) hk
    exact hstatics _ (hmem d l hcd hl) m hm _ he (hkey ▸ List.mem_map_of_mem hm')

/-- What the client says of a class, whatever it was asked for before: its own public members and then those of the
lineage of its supertypes. -/
theorem Regular.exists_answerAfter (hc : Regular settings host c) (before : List String) :
    ∃ l above info, declared settings host c = .ok l ∧ Lineage settings host (l.supertypes c) above ∧
      (client settings host).answerAfter [] before c = .ok info ∧
      info.fields = l.publicFields ++ above.flatMap (·.2.publicFields) ∧
      info.methods = l.publicMethods ++
        Java.firstOfKey (l.publicMethods.map Java.Method.key) (above.flatMap (·.2.handedDown)) := by
  obtain ⟨info, hinfo⟩ := hc.acyclic.exists_assemble hc.described (hierarchy_coveredBy settings host)
    (n := host.outcomes.length + 1) (by simp)
  obtain ⟨k, l, supers, -, hl, hsupers, rfl⟩ := of_assemble_eq_ok hinfo
  have hup : ∀ d ∈ l.supertypes c, (hierarchy settings host).Extends c d := fun d hd => extends_iff.2 ⟨l, hl, hd⟩
  obtain ⟨above, habove⟩ := exists_lineage hsupers
  obtain ⟨hfields, hmethods⟩ := habove.merged (fun d hd => hc.interfaces.of_extends (hup d hd))
    (fun d hd => hc.statics.of_extends (hup d hd)) hsupers
  refine ⟨l, above, _, hl, habove, (answerAfter_eq settings host before c).trans hinfo, ?_, ?_⟩
  · rw [← hfields]
    rfl
  · rw [← hmethods]
    rfl

/-- A class has the public fields of its lineage, and its own public methods followed by the first of each other key that
the classes above it hand down. So all its members are public, no two inherited methods have one key, and no key that a
class above it hands down is lost. -/
theorem members_in_lineage_order (settings : Settings) (host : Host) (c : String) (before : List String)
    (hc : Regular settings host c) :
    ∃ l above, declared settings host c = .ok l ∧ (∀ ts, Lineage settings host [c] ts ↔ ts = (c, l) :: above) ∧
      ∃ info inherited, (client settings host).answerAfter [] before c = .ok info ∧
        info.fields = ((c, l) :: above).flatMap (·.2.publicFields) ∧
        info.methods = l.publicMethods ++ inherited ∧
        inherited = ((above.flatMap (·.2.handedDown)).filter (·.key ∉ l.publicMethods.map Java.Method.key)).eraseDupsBy
          (fun a b => a.key == b.key) ∧
        (∀ f ∈ info.fields, f.modifiers.isPublic) ∧ (∀ m ∈ info.methods, m.modifiers.isPublic) ∧
        (inherited.map Java.Method.key).Nodup ∧
        ∀ d k, Relation.TransGen (hierarchy settings host).Extends c d → declared settings host d = .ok k →
          ∀ m ∈ k.handedDown, m.key ∈ info.methods.map Java.Method.key := by
  obtain ⟨l, above, info, hl, habove, hinfo, hfields, hmethods⟩ := hc.exists_answerAfter before
  refine ⟨l, above, hl, fun ts => ⟨fun hts => hts.unique (.singleton hl habove), fun heq => heq ▸ .singleton hl habove⟩,
    info, _, hinfo, hfields, hmethods, Java.firstOfKey_eq_eraseDupsBy, ?_, ?_, Java.nodup_keys_firstOfKey, ?_⟩
  · intro f hf
    rw [hfields] at hf
    obtain ⟨t, -, hf⟩ := List.mem_flatMap.1 (show f ∈ ((c, l) :: above).flatMap (·.2.publicFields) from hf)
    exact (List.mem_filter.1 hf).2
  · intro m hm
    rw [hmethods] at hm
    rcases List.mem_append.1 hm with hm | hm
    · exact isPublic_of_mem_publicMethods hm
    · obtain ⟨t, -, hm⟩ := List.mem_flatMap.1 (Java.mem_of_mem_firstOfKey hm)
      exact isPublic_of_mem_publicMethods (handedDown_subset t.2 hm)
  · intro d k hcd hd m hm
    obtain ⟨b, hcb, hbd⟩ := Relation.TransGen.head'_iff.1 hcd
    obtain ⟨l', hl', hb⟩ := extends_iff.1 hcb
    rw [hl] at hl'
    cases hl'
    have hmem := habove.mem_of_reaches hb hbd hd
    have hkey : m.key ∈ (above.flatMap (·.2.handedDown)).map Java.Method.key :=
      List.mem_map_of_mem (List.mem_flatMap.2 ⟨(d, k), hmem, hm⟩)
    rw [hmethods, List.map_append, List.mem_append, Java.mem_keys_firstOfKey]
    by_cases hown : m.key ∈ l.publicMethods.map Java.Method.key
    · exact .inl hown
    · exact .inr ⟨hkey, hown⟩

/-- A class below two interfaces which extend the same one, and one of which has a static method. -/
def Host.branched : Host where
  located? := some "javap"
  outcomes :=
    [lists "java.lang.Object" "public class java.lang.Object \x7b\n\x7d\n",
     lists "w.Top" "public interface w.Top \x7b\n  int LIMIT;\n    descriptor: I\n  int size();\n    descriptor: ()I\n\x7d\n",
     lists "w.Left" "public interface w.Left extends w.Top \x7b\n  static int of();\n    descriptor: ()I\n\x7d\n",
     lists "w.Right" "public interface w.Right extends w.Top \x7b\n\x7d\n",
     lists "w.Low" "public class w.Low implements w.Left, w.Right \x7b\n  public int at();\n    descriptor: ()I\n\x7d\n"]

/-- The static method is left out, and of what `w.Top` hands down on two ways the method is inherited once. -/
theorem members_in_lineage_order_branched :
    Regular {} Host.branched "w.Low" ∧
    ∃ l above, declared {} Host.branched "w.Low" = .ok l ∧ Lineage {} Host.branched ["w.Low"] (("w.Low", l) :: above) ∧
      above.map (·.1) = ["java.lang.Object", "w.Left", "w.Top", "w.Right", "w.Top"] ∧
      ∃ info inherited, (client {} Host.branched).answerAfter [] ["w.Right"] "w.Low" = .ok info ∧
        info.fields.map (·.name) = ["LIMIT", "LIMIT"] ∧ info.methods = l.publicMethods ++ inherited ∧
        l.publicMethods.map (·.name) = ["at"] ∧ inherited.map (·.name) = ["size"] ∧
        (inherited.map Java.Method.key).Nodup := by
  have hobject : declared {} Host.branched "java.lang.Object" =
      .ok ⟨"java.lang.Object", ⟨1⟩, false, none, [], [], [], []⟩ := by decide +kernel
  have htop : declared {} Host.branched "w.Top" =
      .ok ⟨"w.Top", ⟨1537⟩, true, none, [], [⟨"LIMIT", "int", ⟨1⟩⟩], [⟨"size", [], "int", ⟨1⟩⟩], []⟩ := by decide +kernel
  have hleft : declared {} Host.branched "w.Left" =
      .ok ⟨"w.Left", ⟨1537⟩, true, none, ["w.Top"], [], [⟨"of", [], "int", ⟨9⟩⟩], []⟩ := by decide +kernel
  have hright : declared {} Host.branched "w.Right" =
      .ok ⟨"w.Right", ⟨1537⟩, true, none, ["w.Top"], [], [], []⟩ := by decide +kernel
  have hlow : declared {} Host.branched "w.Low" =
      .ok ⟨"w.Low", ⟨1⟩, false, none, ["w.Left", "w.Right"], [], [⟨"at", [], "int", ⟨1⟩⟩], []⟩ := by decide +kernel
  have htops : Lineage {} Host.branched ["w.Top"] [("w.Top", _)] := .singleton htop .nil
  have hline := Lineage.singleton hlow (.cons hobject .nil (.cons hleft htops (.singleton hright htops)))
  have hregular : Regular {} Host.branched "w.Low" := .of_lineage hline (by decide) (by decide)
  obtain ⟨l, above, hl, hlines, info, inherited, hinfo, hfields, hmethods, hinherited, -, -, hnodup, -⟩ :=
    members_in_lineage_order {} Host.branched "w.Low" ["w.Right"] hregular
  obtain ⟨heq, rfl⟩ := List.cons_eq_cons.1 ((hlines _).1 hline)
  cases heq
  refine ⟨hregular, _, _, hl, hline, rfl, info, inherited, hinfo, ?_, hmethods, rfl, ?_, hnodup⟩
  · rw [hfields]
    rfl
  · rw [hinherited]
    decide

end Typings.Javap
