import Typings.Proofs.FileTrees
import Typings.Proofs.ModulePaths

/-!
# Saving into an empty directory

Directories of modules have no dot in their names while files of modules have one, so that neither stands where the
other is needed. In an output directory that is empty at first, or not there, saving therefore succeeds, and what it
leaves there are the files of the modules.
-/

namespace Typings.Files

namespace FileTree

variable {t t' : FileTree} {l : Location} {names packages more : List String} {output : Path}

lemma clear_append : t.Clear l (names ++ more) ↔ t.Clear l names ∧ t.Clear (l ++ names) more := by
  constructor
  · intro h
    refine ⟨fun front hfront => h front (hfront.trans (List.prefix_append _ _)), fun front hfront bytes => ?_⟩
    rw [List.append_assoc]
    exact h (names ++ front) ((List.prefix_append_right_inj _).2 hfront) bytes
  · rintro ⟨hfirst, hrest⟩ front hfront bytes
    rcases List.prefix_or_prefix_of_prefix hfront (List.prefix_append names more) with hin | ⟨back, rfl⟩
    · exact hfirst front hin bytes
    · rw [← List.append_assoc]
      exact hrest back ((List.prefix_append_right_inj _).1 hfront) bytes

lemma Open.init (h : t.Open l (names ++ more)) : t.Open l names :=
  fun front hfront => h front (hfront.trans (List.prefix_append _ _))

/-- What stands below a place after directories have been made there. -/
lemma Made.entry (h : t.Made t' l (names ++ packages)) (more : List String) :
    (more <+: packages ∧ t'.entry? (l ++ names ++ more) = some .directory) ∨
      (¬more <+: packages ∧ t'.entry? (l ++ names ++ more) = t.entry? (l ++ names ++ more)) := by
  by_cases hmore : more <+: packages
  · refine .inl ⟨hmore, ?_⟩
    rw [List.append_assoc]
    exact h.isOpen _ ((List.prefix_append_right_inj _).2 hmore)
  · refine .inr ⟨hmore, h.others _ fun front hfront heq => hmore ?_⟩
    rw [List.append_assoc, List.append_cancel_left_eq] at heq
    rw [← heq] at hfront
    exact (List.prefix_append_right_inj _).1 hfront

/-- Nothing stands where the path leads to, except perhaps an empty directory. -/
def IsVacant (t : FileTree) (output : Path) : Prop :=
  ∃ l names, t.Leads output l names ∧
    ∀ more, more ≠ [] → more <+: names ∨ names <+: more → t.entry? (l ++ more) = none

/-- Below the place that the path leads to, files and directories have names of their own: there is a dot on the way to
each of the files and none on the way to a directory. -/
structure Apart (t : FileTree) (output : Path) (l : Location) (names : List String) : Prop where
  leads : t.Leads output l names
  way : t.Clear l names
  file : ∀ more bytes, more ≠ [] → t.entry? (l ++ names ++ more) = some (.file bytes) → ∃ name ∈ more, '.' ∈ name.toList
  directory : ∀ more, more ≠ [] → t.entry? (l ++ names ++ more) = some .directory → ∀ name ∈ more, '.' ∉ name.toList

/-- What the modules have to leave at the place that the path leads to: their files are the only ones there, and the
directories there have no dot in their names. -/
structure Holds (t : FileTree) (output : Path) (l : Location) (names : List String) (modules : List Module) : Prop where
  leads : t.Leads output l names
  way : t.Clear l names
  isOpen : ∀ m ∈ modules, t.Open l (names ++ (moduleNames m.name).dropLast)
  file : ∀ more bytes, more ≠ [] → (t.entry? (l ++ names ++ more) = some (.file bytes) ↔
    ∃ m ∈ modules, more = moduleNames m.name ∧ bytes = m.contents.toUTF8)
  directory : ∀ more, more ≠ [] → t.entry? (l ++ names ++ more) = some .directory → ∀ name ∈ more, '.' ∉ name.toList

lemma IsVacant.holds (h : t.IsVacant output) : ∃ l names, t.Holds output l names [] := by
  obtain ⟨l, names, hleads, hvacant⟩ := h
  have hbelow : ∀ more, more ≠ [] → t.entry? (l ++ names ++ more) = none := by
    intro more hmore
    rw [List.append_assoc]
    exact hvacant (names ++ more) (by simp [hmore]) (.inr (List.prefix_append _ _))
  refine ⟨l, names, hleads, fun front hfront bytes => ?_, by simp, ?_, ?_⟩
  · by_cases hnil : front = []
    · simp [hnil, hleads.directory]
    · simp [hvacant front hnil (.inl hfront)]
  · intro more bytes hmore
    rw [hbelow more hmore]
    simp
  · intro more hmore hdirectory
    rw [hbelow more hmore] at hdirectory
    cases hdirectory

lemma Holds.apart {modules : List Module} (h : t.Holds output l names modules) : t.Apart output l names := by
  refine ⟨h.leads, h.way, fun more bytes hmore hentry => ?_, h.directory⟩
  obtain ⟨m, _, rfl, _⟩ := (h.file more bytes hmore).1 hentry
  exact exists_dot_mem m.name

lemma IsVacant.apart (h : t.IsVacant output) : ∃ l names, t.Apart output l names := by
  obtain ⟨l, names, hholds⟩ := h.holds
  exact ⟨l, names, hholds.apart⟩

end FileTree

/-! ## Saving modules -/

/-- A class whose module can be saved: every name on the way to the file is short enough. -/
structure IsStorable (className : String) : Prop where
  isClassName : Java.isClassName className = true
  short : ∀ name ∈ moduleNames className, name.utf8ByteSize ≤ nameLimit

open FileTree

variable {t : FileTree} {l : Location} {names : List String} {output : Path} {modules : List Module}

lemma IsStorable.steps {className : String} (h : IsStorable className) :
    ∀ name ∈ moduleNames className, IsStep name ∧ '\x00' ∉ name.toList := by
  intro name hname
  have hpart := isPart_moduleNames h.isClassName hname
  exact ⟨⟨hpart.ne_up, h.short name hname⟩, hpart.zero⟩

lemma write_eq {t : FileTree} {p : Path} {k : Location} {bytes : ByteArray} (hp : t.locate p = .ok k)
    (hk : t.entry? k ≠ some .directory) : t.write p bytes = .ok (t.put k (.file bytes)) := by
  cases he : t.entry? k with
  | none =>
    simp only [write, hp, bind, Except.bind, he]
    rfl
  | some e =>
    cases e with
    | file old =>
      simp only [write, hp, bind, Except.bind, he]
      rfl
    | directory => exact absurd he hk

lemma not_moduleNames_on_way {className : String} (h : Java.isClassName className = true) (other : String) :
    ¬moduleNames other <+: (moduleNames className).dropLast := by
  intro hway
  obtain ⟨name, hname, hdot⟩ := exists_dot_mem other
  exact dot_notMem_package h (hway.subset hname) hdot

lemma exists_moduleNames_eq (className : String) :
    ∃ file, moduleNames className = (moduleNames className).dropLast ++ [file] :=
  ⟨_, (List.dropLast_append_getLast (moduleNames_ne_nil _)).symm⟩

lemma FileTree.Leads.modulePath (h : t.Leads output l names) {className : String} (hstorable : IsStorable className) :
    t.Leads (modulePath output className) l (names ++ moduleNames className) := by
  rw [modulePath_eq hstorable.isClassName]
  exact h.down hstorable.steps

/-- Saving a module makes its directories and puts its file below them, unless a file or a directory is in the way. -/
theorem saveModule_ok (hleads : t.Leads output l names) {m : Module} (hm : IsStorable m.name)
    (hclear : t.Clear l (names ++ (moduleNames m.name).dropLast))
    (hfree : t.entry? (l ++ names ++ moduleNames m.name) ≠ some .directory) :
    ∃ t₁, t.Made t₁ l (names ++ (moduleNames m.name).dropLast) ∧
      t₁.entry? (l ++ names ++ moduleNames m.name) ≠ some .directory ∧
      saveModule output m t = .ok (modulePath output m.name)
        (t₁.put (l ++ names ++ moduleNames m.name) (.file m.contents.toUTF8)) := by
  obtain ⟨file, hfile⟩ := exists_moduleNames_eq m.name
  have hpath : t.Leads (modulePath output m.name) l (names ++ (moduleNames m.name).dropLast ++ [file]) := by
    rw [List.append_assoc, ← hfile]
    exact hleads.modulePath hm
  have hdepth : (names ++ (moduleNames m.name).dropLast).length ≤ (modulePath output m.name).parent.parts.length := by
    obtain ⟨front, hparts, _⟩ := hpath.parent.start
    rw [hparts]
    simp
  obtain ⟨t₁, hmake, hmade⟩ := ensureDirectories_made hpath.parent hdepth hclear
  have hlocate : t₁.locate (modulePath output m.name) = .ok (l ++ names ++ moduleNames m.name) := by
    rw [(hpath.keeps hmade.keeps).locate_snoc hmade.isOpen, List.append_assoc, ← hfile, List.append_assoc]
  have hfree₁ : t₁.entry? (l ++ names ++ moduleNames m.name) ≠ some .directory := by
    rcases hmade.entry (moduleNames m.name) with ⟨hway, _⟩ | ⟨_, hentry⟩
    · exact absurd hway (not_moduleNames_on_way hm.isClassName _)
    · rwa [hentry]
  refine ⟨t₁, hmade, hfree₁, ?_⟩
  simp only [saveModule, hmake, write_eq hlocate hfree₁]

lemma FileTree.Apart.clear (h : t.Apart output l names) {className : String}
    (hname : Java.isClassName className = true) : t.Clear l (names ++ (moduleNames className).dropLast) := by
  refine clear_append.2 ⟨h.way, fun front hfront bytes hentry => ?_⟩
  by_cases hnil : front = []
  · rw [hnil, List.append_nil] at hentry
    exact h.way names List.prefix_rfl bytes hentry
  · obtain ⟨name, hin, hdot⟩ := h.file front bytes hnil hentry
    exact dot_notMem_package hname (hfront.subset hin) hdot

lemma FileTree.Apart.entry_ne_directory (h : t.Apart output l names) (className : String) :
    t.entry? (l ++ names ++ moduleNames className) ≠ some .directory := by
  intro hentry
  obtain ⟨name, hname, hdot⟩ := exists_dot_mem className
  exact h.directory _ (moduleNames_ne_nil _) hentry name hname hdot

/-- The file of a module and its directories keep apart. -/
lemma FileTree.Apart.put {t₁ : FileTree} {className : String} (h : t.Apart output l names) (bytes : ByteArray)
    (hname : Java.isClassName className = true)
    (hmade : t.Made t₁ l (names ++ (moduleNames className).dropLast))
    (hfree : t₁.entry? (l ++ names ++ moduleNames className) ≠ some .directory) :
    (t₁.put (l ++ names ++ moduleNames className) (.file bytes)).Apart output l names := by
  have hput := Keeps.put (e := .file bytes) hfree
  refine ⟨h.leads.keeps (hmade.keeps.trans hput), (hput.open hmade.isOpen).init.clear, fun more other hmore hentry => ?_,
    fun more hmore hentry => ?_⟩
  · by_cases heq : more = moduleNames className
    · exact heq ▸ exists_dot_mem className
    · rw [entry_put_of_ne (by simpa using heq)] at hentry
      rcases hmade.entry more with ⟨_, hthere⟩ | ⟨_, hthere⟩
      · rw [hthere] at hentry
        cases hentry
      · exact h.file more other hmore (hthere ▸ hentry)
  · by_cases heq : more = moduleNames className
    · subst heq
      rw [entry_put_self (by simp [moduleNames_ne_nil])] at hentry
      cases hentry
    · rw [entry_put_of_ne (by simpa using heq)] at hentry
      rcases hmade.entry more with ⟨hway, _⟩ | ⟨_, hthere⟩
      · exact fun name hin => dot_notMem_package hname (hway.subset hin)
      · exact h.directory more hmore (hthere ▸ hentry)

/-- The file of a further module stands beside those of the others. -/
theorem saveModule_holds (h : t.Holds output l names modules) {m : Module} (hm : IsStorable m.name)
    (hsame : ∀ other ∈ modules, other.name = m.name → other = m) :
    ∃ t', saveModule output m t = .ok (modulePath output m.name) t' ∧ t'.Holds output l names (modules ++ [m]) := by
  obtain ⟨t₁, hmade, hfree, hsave⟩ :=
    saveModule_ok h.leads hm (h.apart.clear hm.isClassName) (h.apart.entry_ne_directory m.name)
  have hkeeps := hmade.keeps.trans (Keeps.put (e := .file m.contents.toUTF8) hfree)
  have hopen := (Keeps.put (e := .file m.contents.toUTF8) hfree).open hmade.isOpen
  have hapart := h.apart.put m.contents.toUTF8 hm.isClassName hmade hfree
  -- A place below the output directory is the new file, one of its directories, or as it was before.
  refine ⟨_, hsave, hapart.leads, hapart.way, fun other hother => ?_, fun more bytes hmore => ?_, hapart.directory⟩
  · rcases List.mem_append.1 hother with hin | hin
    · exact hkeeps.open (h.isOpen other hin)
    · rwa [List.mem_singleton.1 hin]
  · by_cases heq : more = moduleNames m.name
    · subst heq
      rw [entry_put_self (by simp [moduleNames_ne_nil])]
      constructor
      · intro hentry
        cases hentry
        exact ⟨m, by simp, rfl, rfl⟩
      · rintro ⟨other, hother, hnames, rfl⟩
        rcases List.mem_append.1 hother with hin | hin
        · rw [hsame other hin (moduleNames_injective hnames.symm)]
        · rw [List.mem_singleton.1 hin]
    · have hold : (∃ other ∈ modules ++ [m], more = moduleNames other.name ∧ bytes = other.contents.toUTF8) ↔
          ∃ other ∈ modules, more = moduleNames other.name ∧ bytes = other.contents.toUTF8 := by
        simp only [List.mem_append, List.mem_singleton, or_and_right, exists_or, exists_eq_left, heq, false_and, or_false]
      rw [entry_put_of_ne (by simpa using heq), hold]
      rcases hmade.entry more with ⟨hway, hentry⟩ | ⟨_, hentry⟩
      · rw [hentry]
        constructor
        · intro hdirectory
          cases hdirectory
        · rintro ⟨other, _, rfl, _⟩
          exact absurd hway (not_moduleNames_on_way hm.isClassName _)
      · rw [hentry]
        exact h.file more bytes hmore

/-- Saving modules of different classes into an empty directory succeeds, and it leaves just their files there. -/
theorem saveModules_holds {more : List Module} (h : t.Holds output l names modules)
    (hstorable : ∀ m ∈ more, IsStorable m.name)
    (hsame : ∀ m ∈ modules ++ more, ∀ other ∈ modules ++ more, other.name = m.name → other = m) :
    ∃ t', saveModules output more t = .ok (more.map fun m => modulePath output m.name) t' ∧
      t'.Holds output l names (modules ++ more) := by
  induction more generalizing t modules with
  | nil => exact ⟨t, rfl, by simpa using h⟩
  | cons m more ih =>
    have hm : m ∈ modules ++ m :: more := by simp
    obtain ⟨t₁, hsave, hfirst⟩ := saveModule_holds h (hstorable m List.mem_cons_self) fun other hother =>
      hsame m hm other (List.mem_append_left _ hother)
    obtain ⟨t', hrest, hall⟩ := ih hfirst (fun other hother => hstorable other (List.mem_cons_of_mem _ hother))
      (by simpa using hsame)
    exact ⟨t', mapM_cons_ok hsave hrest, by simpa using hall⟩

/-! ## The files in the output directory -/

lemma FileTree.Holds.mem_filesBelow (h : t.Holds output l names modules) {more : List String} {bytes : ByteArray} :
    (more, bytes) ∈ t.filesBelow output ↔ ∃ m ∈ modules, more = moduleNames m.name ∧ bytes = m.contents.toUTF8 := by
  rw [FileTree.mem_filesBelow]
  constructor
  · intro hmem
    obtain ⟨k, hlocate, hthere⟩ := exists_of_mem_below hmem
    obtain ⟨hmore, hentry⟩ := (mem_below hlocate hthere).1 hmem
    rw [eq_of_walk (fun name hname => (h.leads.steps name hname).down) (h.leads.locate.symm.trans hlocate)] at hentry
    exact (h.file more bytes hmore).1 hentry
  · rintro ⟨m, hm, rfl, rfl⟩
    have hopen := (h.isOpen m hm).init
    have hmore := moduleNames_ne_nil m.name
    refine (mem_below (h.leads.locate_open hopen) (hopen _ List.prefix_rfl)).2 ⟨hmore, ?_⟩
    exact (h.file _ _ hmore).2 ⟨m, hm, rfl, rfl⟩

lemma FileTree.Holds.read (h : t.Holds output l names modules) {m : Module} (hm : m ∈ modules)
    (hstorable : IsStorable m.name) : t.read (modulePath output m.name) = .ok m.contents.toUTF8 := by
  obtain ⟨file, hfile⟩ := exists_moduleNames_eq m.name
  have hpath := h.leads.modulePath hstorable
  have hopen := h.isOpen m hm
  have hentry := (h.file _ _ (moduleNames_ne_nil m.name)).2 ⟨m, hm, rfl, rfl⟩
  rw [hfile, ← List.append_assoc] at hpath
  have hlocate := hpath.locate_snoc hopen
  rw [List.append_assoc, ← hfile, ← List.append_assoc] at hlocate
  exact FileTree.read_eq_ok.2 ⟨_, hlocate, hentry⟩

/-- The files are those of the modules, one for each. -/
theorem FileTree.Holds.filesBelow_perm (h : t.Holds output l names modules)
    (hnodup : (modules.map (·.name)).Nodup) :
    (t.filesBelow output).Perm (modules.map fun m => (moduleNames m.name, m.contents.toUTF8)) := by
  have hmodules : modules.Nodup := hnodup.of_map _
  have hfiles : (modules.map fun m => (moduleNames m.name, m.contents.toUTF8)).Nodup := by
    refine hmodules.map_on fun m hm other hother heq => ?_
    exact List.inj_on_of_nodup_map hnodup hm hother (moduleNames_injective (Prod.mk.inj heq).1)
  refine (List.perm_ext_iff_of_nodup (nodup_filesBelow t output) hfiles).2 fun found => ?_
  obtain ⟨more, bytes⟩ := found
  rw [h.mem_filesBelow, List.mem_map]
  simp only [Prod.mk.injEq, eq_comm]

end Typings.Files
