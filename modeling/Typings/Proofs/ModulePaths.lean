import Mathlib.Data.List.Basic
import Typings.Conversion.Specifier
import Typings.Files.Save

/-!
# Paths of modules

The segments of a class name are letters, digits, underscores and dollar signs, so each of them is a file name that no
path takes apart. The path of a module therefore tells its class, and what a module imports another one by leads from
the directory of the one to the file of the other.
-/

namespace Typings

/-! ## Segments of class names -/

namespace Text

lemma splitAt_ne_nil (sep : Char) (s : String) : splitAt sep s ≠ [] := by
  simp [splitAt, List.splitOn_ne_nil]

lemma splitAt_of_notMem {sep : Char} {s : String} (h : sep ∉ s.toList) : splitAt sep s = [s] := by
  simp [splitAt, List.splitOn_eq_singleton h]

lemma intercalate_splitAt (sep : Char) (s : String) :
    [sep].intercalate ((splitAt sep s).map String.toList) = s.toList := by
  have hmap : (splitAt sep s).map String.toList = s.toList.splitOn sep := by
    simp [splitAt, Function.comp_def]
  rw [hmap, List.intercalate_splitOn]

lemma splitAt_intercalate (sep : Char) {parts : List String} (hne : parts ≠ []) (h : ∀ part ∈ parts, sep ∉ part.toList) :
    splitAt sep ((String.singleton sep).intercalate parts) = parts := by
  have hsplit : ([sep].intercalate (parts.map String.toList)).splitOn sep = parts.map String.toList :=
    List.splitOn_intercalate sep (by simpa using h) (by simpa using hne)
  rw [splitAt, String.toList_intercalate, String.toList_singleton, hsplit]
  simp [Function.comp_def]

lemma splitAt_injective (sep : Char) {s t : String} (h : splitAt sep s = splitAt sep t) : s = t := by
  have hs := intercalate_splitAt sep s
  rw [h, intercalate_splitAt] at hs
  exact String.toList_inj.1 hs.symm

end Text

namespace Java

/-- A segment of a class name, as text. -/
def IsSegment (s : String) : Prop :=
  isSegment s.toList = true

lemma isSegment_of_mem {className s : String} (h : isClassName className = true) (hs : s ∈ segments className) :
    IsSegment s := by
  obtain ⟨cs, hcs, rfl⟩ := List.mem_map.1 hs
  rw [IsSegment, String.toList_ofList]
  exact List.all_eq_true.1 h cs hcs

lemma isSegment_char {cs : List Char} (h : isSegment cs = true) {c : Char} (hc : c ∈ cs) :
    isSegmentStart c = true ∨ Text.isWordChar c = true ∨ c = '$' := by
  cases cs with
  | nil => cases hc
  | cons d ds =>
    simp only [isSegment, Bool.and_eq_true, List.all_eq_true, Bool.or_eq_true, decide_eq_true_eq] at h
    rcases List.mem_cons.1 hc with rfl | hin
    · exact .inl h.1
    · exact .inr (h.2 c hin)

lemma IsSegment.notMem {s : String} (h : IsSegment s) {c : Char} (hstart : isSegmentStart c = false)
    (hword : Text.isWordChar c = false) (hdollar : c ≠ '$') : c ∉ s.toList := by
  intro hc
  rcases isSegment_char h hc with hc | hc | hc
  · simp [hstart] at hc
  · simp [hword] at hc
  · exact hdollar hc

lemma IsSegment.dot_notMem {s : String} (h : IsSegment s) : '.' ∉ s.toList :=
  h.notMem (by decide) (by decide) (by decide)

end Java

namespace Files

/-- A name that a path takes for one part, whatever is appended to it: no part of the directory structure, and without
slashes and zero characters. -/
structure IsPart (name : String) : Prop where
  start : name.toList.head?.any Java.isSegmentStart = true
  slash : '/' ∉ name.toList
  zero : '\x00' ∉ name.toList

namespace IsPart

lemma of_isSegment {s : String} (h : Java.IsSegment s) : IsPart s := by
  refine ⟨?_, h.notMem (by decide) (by decide) (by decide), h.notMem (by decide) (by decide) (by decide)⟩
  rw [Java.IsSegment] at h
  cases hs : s.toList with
  | nil => simp [hs, Java.isSegment] at h
  | cons c cs =>
    simp only [hs, Java.isSegment, Bool.and_eq_true] at h
    simpa using h.1

lemma append {name extension : String} (h : IsPart name) (hslash : '/' ∉ extension.toList)
    (hzero : '\x00' ∉ extension.toList) : IsPart (name ++ extension) := by
  refine ⟨?_, by simp [h.slash, hslash], by simp [h.zero, hzero]⟩
  have hstart := h.start
  cases hs : name.toList with
  | nil => simp [hs] at hstart
  | cons c cs => simpa [hs] using hstart

lemma ne {name other : String} (h : IsPart name) (hother : other.toList.head?.any Java.isSegmentStart = false) :
    name ≠ other := by
  rintro rfl
  simp [h.start] at hother

lemma ne_up {name : String} (h : IsPart name) : name ≠ ".." :=
  h.ne (by decide)

/-- Such a name is a path of one part. -/
lemma ofString {name : String} (h : IsPart name) : Path.ofString name = ⟨.here, [name]⟩ := by
  have hstart : name.toList.takeWhile (· = '/') = [] := by
    cases hs : name.toList with
    | nil => rfl
    | cons c cs =>
      have hslash := h.slash
      rw [hs] at hslash
      have hc : c ≠ '/' := fun hc => hslash (hc ▸ List.mem_cons_self)
      simp [hc]
  have hempty : name ≠ "" := h.ne (by decide)
  have hdot : name ≠ "." := h.ne (by decide)
  simp [Path.ofString, hstart, Path.anchorOf, Text.splitAt_of_notMem h.slash, hempty, hdot]

end IsPart

/-! ## The path of a module -/

/-- The names with the extension of modules at the last one. -/
def withExtension (names : List String) : List String :=
  names.dropLast ++ [names.getLastD "" ++ ".ts"]

/-- The names from the output directory to the module of a class. -/
def moduleNames (className : String) : List String :=
  withExtension (Java.segments className)

lemma withExtension_injective {as bs : List String} (ha : as ≠ []) (hb : bs ≠ [])
    (h : withExtension as = withExtension bs) : as = bs := by
  obtain ⟨hinit, hlast⟩ := List.append_inj' h rfl
  have hlast : as.getLastD "" = bs.getLastD "" := by
    have hchars := congrArg String.toList (List.singleton_inj.1 hlast)
    simp only [String.toList_append, List.append_cancel_right_eq] at hchars
    exact String.toList_inj.1 hchars
  rw [List.getLastD_eq_getLast?, List.getLastD_eq_getLast?, List.getLast?_eq_some_getLast ha,
    List.getLast?_eq_some_getLast hb, Option.getD_some, Option.getD_some] at hlast
  rw [← List.dropLast_append_getLast ha, ← List.dropLast_append_getLast hb, hinit, hlast]

/-- The path of a module tells its class. -/
theorem moduleNames_injective {a b : String} (h : moduleNames a = moduleNames b) : a = b :=
  Text.splitAt_injective '.' (withExtension_injective (Text.splitAt_ne_nil _ _) (Text.splitAt_ne_nil _ _) h)

lemma moduleNames_ne_nil (className : String) : moduleNames className ≠ [] := by
  simp [moduleNames, withExtension]

@[simp] lemma dropLast_moduleNames (className : String) :
    (moduleNames className).dropLast = (Java.segments className).dropLast := by
  simp [moduleNames, withExtension]

lemma getLast_segments_mem (className : String) :
    (Java.segments className).getLastD "" ∈ Java.segments className := by
  have hne : Java.segments className ≠ [] := Text.splitAt_ne_nil _ _
  rw [List.getLastD_eq_getLast?, List.getLast?_eq_some_getLast hne]
  exact List.getLast_mem hne

lemma isPart_moduleNames {className name : String} (h : Java.isClassName className = true)
    (hname : name ∈ moduleNames className) : IsPart name := by
  rcases List.mem_append.1 hname with hin | hin
  · exact .of_isSegment (Java.isSegment_of_mem h (List.dropLast_subset _ hin))
  · rw [List.mem_singleton.1 hin]
    have hlast := Java.isSegment_of_mem h (getLast_segments_mem className)
    exact (IsPart.of_isSegment hlast).append (by decide) (by decide)

/-- Directories of modules have no dot in their names. -/
lemma dot_notMem_package {className name : String} (h : Java.isClassName className = true)
    (hname : name ∈ (moduleNames className).dropLast) : '.' ∉ name.toList := by
  rw [dropLast_moduleNames] at hname
  exact (Java.isSegment_of_mem h (List.dropLast_subset _ hname)).dot_notMem

/-- Files of modules have a dot in their names. -/
lemma exists_dot_mem (className : String) : ∃ name ∈ moduleNames className, '.' ∈ name.toList := by
  refine ⟨_, List.mem_append_right _ (List.mem_singleton_self _), ?_⟩
  simp

lemma foldl_join_parts {names : List String} (hnames : ∀ name ∈ names, IsPart name) (p : Path) :
    names.foldl (fun p s => p.join (.ofString s)) p = { p with parts := p.parts ++ names } := by
  induction names generalizing p with
  | nil => simp
  | cons name names ih =>
    have hname := (hnames name List.mem_cons_self).ofString
    have hjoin : p.join (.ofString name) = { p with parts := p.parts ++ [name] } := by
      rw [hname]
      rfl
    rw [List.foldl_cons, hjoin, ih fun other hother => hnames other (List.mem_cons_of_mem _ hother)]
    simp

theorem modulePath_eq {className : String} (h : Java.isClassName className = true) (output : Path) :
    modulePath output className = { output with parts := output.parts ++ moduleNames className } :=
  foldl_join_parts (fun _ hname => isPart_moduleNames h hname) output

end Files

namespace Conversion

/-! ## Where specifiers lead -/

/-- Goes on from the names of a directory by one part of a specifier; there is nothing above the top. -/
def followPart (directory : List String) (part : String) : Option (List String) :=
  if part = "" ∨ part = "." then some directory
  else if part = ".." then if directory = [] then none else some directory.dropLast
  else some (directory ++ [part])

/-- The names that a specifier leads to from the names of a directory. -/
def follow (directory : List String) (specifier : String) : Option (List String) :=
  (Text.splitAt '/' specifier).foldlM followPart directory

lemma take_sharedLength (as bs : List String) : as.take (sharedLength as bs) = bs.take (sharedLength as bs) := by
  fun_induction sharedLength as bs with
  | case1 as b bs ih => simp [ih]
  | case2 => simp
  | case3 => simp

lemma sharedLength_lt {as bs : List String} (h : ¬as <+: bs) : sharedLength as bs < as.length := by
  have hle : sharedLength as bs ≤ as.length := by
    fun_induction sharedLength as bs with
    | case1 as b bs ih => simpa using ih fun hrest => h (List.cons_prefix_cons.2 ⟨rfl, hrest⟩)
    | case2 => simp
    | case3 => simp
  refine Nat.lt_of_le_of_ne hle fun heq => h ?_
  rw [← List.take_length (l := as), ← heq, take_sharedLength]
  exact List.take_prefix _ _

lemma sharedLength_of_isPrefix {as bs : List String} (h : as <+: bs) : sharedLength as bs = as.length := by
  fun_induction sharedLength as bs with
  | case1 as b bs ih => simpa using ih (List.cons_prefix_cons.1 h).2
  | case2 a as b bs hne => exact absurd (List.cons_prefix_cons.1 h).1 hne
  | case3 as bs hcons =>
    cases as with
    | nil => rfl
    | cons a as =>
      obtain ⟨rest, rfl⟩ := h
      exact (hcons a as a (as ++ rest) rfl rfl).elim

lemma sharedLength_comm (as bs : List String) : sharedLength as bs = sharedLength bs as := by
  fun_induction sharedLength as bs with
  | case1 as b bs ih => simp [sharedLength, ih]
  | case2 a as b bs hne => simp [sharedLength, Ne.symm hne]
  | case3 as bs hcons =>
    cases as with
    | nil => cases bs <;> rfl
    | cons a as =>
      cases bs with
      | nil => rfl
      | cons b bs => exact (hcons a as b bs rfl rfl).elim

lemma intercalate_up (ups : Nat) {names : List String} (hnames : names ≠ []) :
    "/".intercalate (List.replicate ups ".." ++ names) =
      String.join (List.replicate ups "../") ++ "/".intercalate names := by
  induction ups with
  | zero => simp
  | succ ups ih =>
    have hne : List.replicate ups ".." ++ names ≠ [] := by simp [hnames]
    rw [List.replicate_succ, List.cons_append, String.intercalate_cons_of_ne_nil hne, ih, ← String.append_assoc,
      List.replicate_succ, String.join_cons]
    rfl

/-- The parts of a specifier, where `names` are what it goes down by after the directories that it goes up. -/
lemma splitAt_moduleSpecifier_of {importer imported : String} {names : List String} (hne : names ≠ [])
    (hslash : ∀ name ∈ names, '/' ∉ name.toList)
    (hnames : "/".intercalate names = "/".intercalate ((Java.segments imported).drop
      (sharedLength (Java.segments importer) (Java.segments imported)))) :
    Text.splitAt '/' (moduleSpecifier importer imported) =
      "." :: (List.replicate ((Java.segments importer).length -
        sharedLength (Java.segments importer) (Java.segments imported) - 1) ".." ++ names) := by
  set ups := (Java.segments importer).length - sharedLength (Java.segments importer) (Java.segments imported) - 1 with hups
  have htext : moduleSpecifier importer imported = "/".intercalate ("." :: (List.replicate ups ".." ++ names)) := by
    rw [String.intercalate_cons_of_ne_nil (by simp [hne]), intercalate_up ups hne, hnames, ← String.append_assoc]
    rfl
  rw [htext]
  apply Text.splitAt_intercalate '/' (List.cons_ne_nil _ _)
  intro part hpart
  simp only [List.mem_cons, List.mem_append, List.mem_replicate] at hpart
  rcases hpart with rfl | ⟨_, rfl⟩ | hpart
  · decide
  · decide
  · exact hslash part hpart

/-- The parts of a specifier: up to the directory that both modules lie below, and down to the imported one. -/
lemma splitAt_moduleSpecifier {importer imported : String} (h : Java.isClassName imported = true)
    (hshared : sharedLength (Java.segments importer) (Java.segments imported) < (Java.segments imported).length) :
    Text.splitAt '/' (moduleSpecifier importer imported) =
      "." :: (List.replicate ((Java.segments importer).length -
        sharedLength (Java.segments importer) (Java.segments imported) - 1) ".." ++
        (Java.segments imported).drop (sharedLength (Java.segments importer) (Java.segments imported))) := by
  refine splitAt_moduleSpecifier_of ?_ (fun name hname => ?_) rfl
  · rw [ne_eq, List.drop_eq_nil_iff]
    omega
  · exact (Files.IsPart.of_isSegment (Java.isSegment_of_mem h (List.mem_of_mem_drop hname))).slash

/-- A specifier of a class whose segments start those of the importing one has no name to go down to. -/
lemma splitAt_moduleSpecifier_around {importer imported : String}
    (h : Java.segments imported <+: Java.segments importer) :
    Text.splitAt '/' (moduleSpecifier importer imported) =
      "." :: (List.replicate ((Java.segments importer).length - (Java.segments imported).length - 1) ".." ++ [""]) := by
  have hshared : sharedLength (Java.segments importer) (Java.segments imported) = (Java.segments imported).length := by
    rw [sharedLength_comm, sharedLength_of_isPrefix h]
  rw [splitAt_moduleSpecifier_of (List.cons_ne_nil "" []) (by simp), hshared]
  rw [hshared, List.drop_length]
  rfl

lemma foldlM_followPart_up {ups : Nat} {directory : List String} (h : ups ≤ directory.length) :
    (List.replicate ups "..").foldlM followPart directory = some (directory.take (directory.length - ups)) := by
  induction ups generalizing directory with
  | zero => simp
  | succ ups ih =>
    have hne : directory ≠ [] := by
      rintro rfl
      simp at h
    have hstep : followPart directory ".." = some directory.dropLast := by simp [followPart, hne]
    have hle : ups ≤ directory.dropLast.length := by
      rw [List.length_dropLast]
      omega
    rw [List.replicate_succ, List.foldlM_cons, hstep]
    refine (ih hle).trans ?_
    rw [List.length_dropLast, List.dropLast_eq_take, List.take_take]
    congr 2
    omega

lemma foldlM_followPart_down {names : List String} (h : ∀ name ∈ names, Files.IsPart name) (directory : List String) :
    names.foldlM followPart directory = some (directory ++ names) := by
  induction names generalizing directory with
  | nil => simp
  | cons name names ih =>
    have hname := h name List.mem_cons_self
    have hempty : name ≠ "" := hname.ne (by decide)
    have hdot : name ≠ "." := hname.ne (by decide)
    have hstep : followPart directory name = some (directory ++ [name]) := by
      simp [followPart, hempty, hdot, hname.ne_up]
    rw [List.foldlM_cons, hstep]
    refine (ih (fun other hother => h other (List.mem_cons_of_mem _ hother)) _).trans ?_
    simp

/-- From the directory of a module, the specifier leads to the imported module, unless the segments of one of the two
classes start those of the other. -/
theorem follow_moduleSpecifier {importer imported : String} (h : Java.isClassName imported = true)
    (hup : ¬Java.segments importer <+: Java.segments imported)
    (hdown : ¬Java.segments imported <+: Java.segments importer) :
    follow (Java.segments importer).dropLast (moduleSpecifier importer imported) = some (Java.segments imported) := by
  have hstart := sharedLength_lt hup
  have htarget := sharedLength_lt hdown
  rw [sharedLength_comm] at htarget
  have htake := take_sharedLength (Java.segments importer) (Java.segments imported)
  rw [follow, splitAt_moduleSpecifier h htarget]
  set shared := sharedLength (Java.segments importer) (Java.segments imported)
  have hparts : ∀ name ∈ (Java.segments imported).drop shared, Files.IsPart name := fun name hname =>
    .of_isSegment (Java.isSegment_of_mem h (List.mem_of_mem_drop hname))
  have hups : (Java.segments importer).length - shared - 1 ≤ (Java.segments importer).dropLast.length := by
    rw [List.length_dropLast]
    omega
  have hrest : (Java.segments importer).dropLast.take
      ((Java.segments importer).dropLast.length - ((Java.segments importer).length - shared - 1)) =
        (Java.segments imported).take shared := by
    rw [List.length_dropLast, List.dropLast_eq_take, List.take_take, ← htake]
    congr 1
    omega
  have hhere : followPart (Java.segments importer).dropLast "." = some (Java.segments importer).dropLast := rfl
  rw [List.foldlM_cons, hhere, Option.bind_eq_bind, Option.bind_some, List.foldlM_append, foldlM_followPart_up hups,
    hrest, Option.bind_eq_bind, Option.bind_some, foldlM_followPart_down hparts, List.take_append_drop]

/-- A class whose segments go on from those of the importing class is looked for beside the importing module. -/
lemma follow_moduleSpecifier_below {importer imported : String} (h : Java.isClassName imported = true)
    (hbelow : Java.segments importer <+: Java.segments imported)
    (hlt : (Java.segments importer).length < (Java.segments imported).length) :
    follow (Java.segments importer).dropLast (moduleSpecifier importer imported) =
      some ((Java.segments importer).dropLast ++ (Java.segments imported).drop (Java.segments importer).length) := by
  have hshared := sharedLength_of_isPrefix hbelow
  have hparts : ∀ name ∈ (Java.segments imported).drop (Java.segments importer).length, Files.IsPart name :=
    fun name hname => .of_isSegment (Java.isSegment_of_mem h (List.mem_of_mem_drop hname))
  have hhere : followPart (Java.segments importer).dropLast "." = some (Java.segments importer).dropLast := rfl
  rw [follow, splitAt_moduleSpecifier h (hshared ▸ hlt), hshared, Nat.sub_self, List.foldlM_cons, hhere,
    Option.bind_eq_bind, Option.bind_some]
  exact foldlM_followPart_down hparts _

/-- The specifier of a class around the importing one stays below the output directory, although it names no file. -/
lemma exists_follow_moduleSpecifier_around {importer imported : String}
    (h : Java.segments imported <+: Java.segments importer) :
    ∃ target, follow (Java.segments importer).dropLast (moduleSpecifier importer imported) = some target := by
  have hups : (Java.segments importer).length - (Java.segments imported).length - 1 ≤
      (Java.segments importer).dropLast.length := by
    rw [List.length_dropLast]
    omega
  have hhere : followPart (Java.segments importer).dropLast "." = some (Java.segments importer).dropLast := rfl
  rw [follow, splitAt_moduleSpecifier_around h, List.foldlM_cons, hhere, Option.bind_eq_bind, Option.bind_some,
    List.foldlM_append, foldlM_followPart_up hups]
  exact ⟨_, rfl⟩

/-- From the directory of a module, every specifier leads to a place below the output directory. It ends in a name and
leads to the imported module exactly if the segments of neither class start those of the other. -/
theorem moduleSpecifier_names_module_iff {importer imported : String} (himporter : Java.isClassName importer = true)
    (himported : Java.isClassName imported = true) (output : Files.Path) :
    ∃ directory target,
      (Files.modulePath output importer).parent = { output with parts := output.parts ++ directory } ∧
      follow directory (moduleSpecifier importer imported) = some target ∧
      ((Text.splitAt '/' (moduleSpecifier importer imported)).getLastD "" ≠ "" ∧
          { output with parts := output.parts ++ Files.withExtension target } = Files.modulePath output imported ↔
        ¬Java.segments importer <+: Java.segments imported ∧ ¬Java.segments imported <+: Java.segments importer) := by
  have hdirectory : (Files.modulePath output importer).parent =
      { output with parts := output.parts ++ (Java.segments importer).dropLast } := by
    rw [Files.modulePath_eq himporter, Files.Path.parent, ← Files.dropLast_moduleNames,
      List.dropLast_append_of_ne_nil (Files.moduleNames_ne_nil importer)]
  refine ⟨(Java.segments importer).dropLast, ?_⟩
  rw [Files.modulePath_eq himported]
  by_cases haround : Java.segments imported <+: Java.segments importer
  · -- The specifier ends in a slash.
    obtain ⟨target, htarget⟩ := exists_follow_moduleSpecifier_around haround
    refine ⟨target, hdirectory, htarget, iff_of_false (fun hnames => hnames.1 ?_) fun hneither => hneither.2 haround⟩
    rw [splitAt_moduleSpecifier_around haround, ← List.cons_append, List.getLastD_concat]
  by_cases hbelow : Java.segments importer <+: Java.segments imported
  · -- It names a file, one directory too high.
    have hlt : (Java.segments importer).length < (Java.segments imported).length :=
      Nat.lt_of_le_of_ne hbelow.length_le fun heq => haround (hbelow.eq_of_length heq ▸ List.prefix_refl _)
    refine ⟨_, hdirectory, follow_moduleSpecifier_below himported hbelow hlt,
      iff_of_false (fun hnames => ?_) fun hneither => hneither.1 hbelow⟩
    have himporterne : Java.segments importer ≠ [] := Text.splitAt_ne_nil _ _
    have hparts : Files.withExtension _ = Files.moduleNames imported :=
      List.append_cancel_left (congrArg Files.Path.parts hnames.2)
    have htarget := congrArg List.length
      (Files.withExtension_injective (by simp [hlt]) (Text.splitAt_ne_nil _ _) hparts)
    simp only [List.length_append, List.length_dropLast, List.length_drop] at htarget
    have := List.length_pos_iff.2 himporterne
    change _ = (Java.segments imported).length at htarget
    omega
  · refine ⟨_, hdirectory, follow_moduleSpecifier himported hbelow haround,
      iff_of_true ⟨?_, rfl⟩ ⟨hbelow, haround⟩⟩
    have hshared : sharedLength (Java.segments importer) (Java.segments imported) < (Java.segments imported).length := by
      rw [sharedLength_comm]
      exact sharedLength_lt haround
    have hdrop : (Java.segments imported).drop (sharedLength (Java.segments importer) (Java.segments imported)) ≠ [] := by
      rw [ne_eq, List.drop_eq_nil_iff]
      omega
    rw [splitAt_moduleSpecifier himported hshared, ← List.cons_append, List.getLastD_eq_getLast?,
      List.getLast?_append_of_ne_nil _ hdrop, List.getLast?_drop, if_neg (by omega)]
    have hlast := Java.isSegment_of_mem himported (Files.getLast_segments_mem imported)
    rw [List.getLastD_eq_getLast?] at hlast
    exact (Files.IsPart.of_isSegment hlast).ne (by decide)

theorem moduleSpecifier_names_module_iff_sibling :
    Java.isClassName "a.b.C" = true ∧ Java.isClassName "a.x.D" = true ∧
      ∃ target, follow ["a", "b"] (moduleSpecifier "a.b.C" "a.x.D") = some target ∧
        ({ parts := "out" :: Files.withExtension target } : Files.Path) = Files.modulePath { parts := ["out"] } "a.x.D" := by
  have himporter : Java.isClassName "a.b.C" = true := by decide +kernel
  have himported : Java.isClassName "a.x.D" = true := by decide +kernel
  obtain ⟨directory, target, hdirectory, htarget, hiff⟩ :=
    moduleSpecifier_names_module_iff himporter himported { parts := ["out"] }
  have hparent : (Files.modulePath { parts := ["out"] } "a.b.C").parent.parts = ["out"] ++ ["a", "b"] := by
    decide +kernel
  have hsame : directory = ["a", "b"] := List.append_cancel_left ((congrArg Files.Path.parts hdirectory).symm.trans hparent)
  subst hsame
  exact ⟨himporter, himported, target, htarget, (hiff.2 (by decide +kernel)).2⟩

end Conversion

end Typings
