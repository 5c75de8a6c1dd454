import Typings.Proofs.SavedModules

/-!
# Saving into any directory

Saving goes on up to the first module that cannot be written. Whatever stood in the tree before, the files of the
modules that were written by then hold what was written last for their classes, and every other file is as it was. In
an output directory that is empty at first no module stands in the way of another one, so that all are written.
-/

namespace Typings.Files

/-- The tree that a step leaves behind. -/
def treeAfter {ε α : Type} : EStateM.Result ε FileTree α → FileTree
  | .ok _ t => t
  | .error _ t => t

variable {t t' t₁ : FileTree} {l k : Location} {p output : Path} {bytes : ByteArray}

namespace FileTree

/-! ## Trees that grow by directories -/

/-- What stood in the tree still does, and all that is new are directories. -/
structure Grows (t t' : FileTree) : Prop where
  workingDirectory : t'.workingDirectory = t.workingDirectory
  kept : ∀ k e, t.entry? k = some e → t'.entry? k = some e
  new : ∀ k e, t.entry? k = none → t'.entry? k = some e → e = .directory

namespace Grows

lemma refl (t : FileTree) : t.Grows t := by
  refine ⟨rfl, fun _ _ h => h, fun k e hnone hsome => ?_⟩
  rw [hnone] at hsome
  cases hsome

lemma trans (h : t.Grows t₁) (h' : t₁.Grows t') : t.Grows t' := by
  refine ⟨h'.workingDirectory.trans h.workingDirectory, fun k e he => h'.kept k e (h.kept k e he),
    fun k e hnone he => ?_⟩
  cases hk : t₁.entry? k with
  | none => exact h'.new k e hk he
  | some e₁ =>
    have hkept := h'.kept k e₁ hk
    rw [he] at hkept
    cases hkept
    exact h.new k e hnone hk

lemma keeps (h : t.Grows t') : t.Keeps t' :=
  ⟨h.workingDirectory, fun k => h.kept k .directory⟩

lemma file_iff (h : t.Grows t') : t'.entry? k = some (.file bytes) ↔ t.entry? k = some (.file bytes) := by
  refine ⟨fun hfile => ?_, h.kept k _⟩
  cases hk : t.entry? k with
  | none => cases h.new k _ hk hfile
  | some e =>
    have hkept := h.kept k e hk
    rw [hfile] at hkept
    exact hkept.symm

lemma put (h : t.entry? l = none) : t.Grows (t.put l .directory) := by
  have hl : l ≠ [] := by
    rintro rfl
    cases h
  refine ⟨rfl, fun k e hk => ?_, fun k e hnone hk => ?_⟩
  · have hne : k ≠ l := by
      rintro rfl
      rw [h] at hk
      cases hk
    rwa [entry_put_of_ne hne]
  · by_cases heq : k = l
    · subst heq
      rw [entry_put_self hl] at hk
      cases hk
      rfl
    · rw [entry_put_of_ne heq, hnone] at hk
      cases hk

lemma of_makeDirectory (h : t.makeDirectory p = .ok t') : t.Grows t' := by
  cases hp : t.locate p with
  | error e =>
    simp only [makeDirectory, hp, bind, Except.bind] at h
    cases h
  | ok l =>
    rw [makeDirectory_eq hp] at h
    split_ifs at h with hthere
    cases h
    exact .put (Option.not_isSome_iff_eq_none.1 hthere)

end Grows

lemma ensureDirectory_grows (p : Path) (t : FileTree) : t.Grows (treeAfter (ensureDirectory p t)) := by
  unfold ensureDirectory
  split
  · rename_i t' hmake
    exact .of_makeDirectory hmake
  · exact .refl t
  · exact .refl t
  · split_ifs <;> exact .refl t

lemma ensureDirectories_succ_stopped {depth : Nat} {e : FileError × Path} (h : t.makeDirectory p = .error .notFound)
    (hparent : ensureDirectories p.parent depth t = .error e t') : ensureDirectories p (depth + 1) t = .error e t' := by
  simp only [ensureDirectories, bind, EStateM.bind, get_eq, h, hparent]

/-- Making directories adds directories at most, whether or not it gets to its end. -/
theorem ensureDirectories_grows (p : Path) (depth : Nat) (t : FileTree) :
    t.Grows (treeAfter (ensureDirectories p depth t)) := by
  induction depth generalizing p with
  | zero => exact ensureDirectory_grows p t
  | succ depth ih =>
    by_cases hmake : t.makeDirectory p = .error .notFound
    · have hbefore := ih p.parent
      cases hparent : ensureDirectories p.parent depth t with
      | ok u t₁ =>
        rw [hparent] at hbefore
        rw [ensureDirectories_succ_notFound hmake hparent]
        exact hbefore.trans (ensureDirectory_grows p t₁)
      | error e t₁ =>
        rw [hparent] at hbefore
        rw [ensureDirectories_succ_stopped hmake hparent]
        exact hbefore
    · rw [ensureDirectories_succ hmake]
      exact ensureDirectory_grows p t

/-! ## One module -/

lemma exists_of_write (h : t.write p bytes = .ok t') :
    ∃ l, t.locate p = .ok l ∧ t.entry? l ≠ some .directory ∧ t' = t.put l (.file bytes) := by
  cases hp : t.locate p with
  | error e =>
    simp only [write, hp, bind, Except.bind] at h
    cases h
  | ok l =>
    by_cases hdirectory : t.entry? l = some .directory
    · simp only [write, hp, bind, Except.bind, hdirectory] at h
      cases h
    · rw [write_eq hp hdirectory] at h
      cases h
      exact ⟨l, rfl, hdirectory, rfl⟩

/-- The path leads to a file with these contents; directories are kept and other files are as they were. -/
structure Wrote (t t' : FileTree) (p : Path) (bytes : ByteArray) (l : Location) : Prop where
  keeps : t.Keeps t'
  locate : t'.locate p = .ok l
  file : t'.entry? l = some (.file bytes)
  others : ∀ k, k ≠ l → ∀ other, t'.entry? k = some (.file other) ↔ t.entry? k = some (.file other)

lemma Wrote.of_write (hgrows : t.Grows t₁) (h : t₁.write p bytes = .ok t') : ∃ l, t.Wrote t' p bytes l := by
  obtain ⟨l, hp, hfree, rfl⟩ := exists_of_write h
  have hl : l ≠ [] := by
    rintro rfl
    exact hfree rfl
  have hput := Keeps.put (e := .file bytes) hfree
  refine ⟨l, hgrows.keeps.trans hput, hput.locate hp, entry_put_self hl, fun k hk other => ?_⟩
  rw [entry_put_of_ne hk]
  exact hgrows.file_iff

end FileTree

open FileTree

variable {m : Module} {modules : List Module} {e : SaveError}

lemma saveModule_eq_ok (h : saveModule output m t = .ok p t') :
    p = modulePath output m.name ∧ ∃ l, t.Wrote t' (modulePath output m.name) m.contents.toUTF8 l := by
  unfold saveModule at h
  dsimp only at h
  have hgrows := ensureDirectories_grows (modulePath output m.name).parent
    (modulePath output m.name).parent.parts.length t
  split at h
  · cases h
  · rename_i t₁ hmake
    rw [hmake] at hgrows
    split at h
    · cases h
    · rename_i t₂ hwrite
      cases h
      exact ⟨rfl, Wrote.of_write hgrows hwrite⟩

lemma saveModule_eq_error (h : saveModule output m t = .error e t') :
    e.path = modulePath output m.name ∧ t.Grows t' := by
  unfold saveModule at h
  dsimp only at h
  have hgrows := ensureDirectories_grows (modulePath output m.name).parent
    (modulePath output m.name).parent.parts.length t
  split at h
  · rename_i cause causePath t₁ hmake
    rw [hmake] at hgrows
    cases h
    exact ⟨rfl, hgrows⟩
  · rename_i t₁ hmake
    rw [hmake] at hgrows
    split at h
    · cases h
      exact ⟨rfl, hgrows⟩
    · cases h

/-! ## Where modules stand -/

lemma modulePath_injective {a b : String} (ha : Java.isClassName a = true) (hb : Java.isClassName b = true)
    (h : modulePath output a = modulePath output b) : a = b := by
  rw [modulePath_eq ha, modulePath_eq hb] at h
  exact moduleNames_injective (List.append_cancel_left (congrArg Path.parts h))

lemma exists_of_locate_modulePath {className : String} (hname : Java.isClassName className = true)
    (h : t.locate (modulePath output className) = .ok k) :
    ∃ l, t.walk (if output.anchor = .here then t.workingDirectory else []) output.parts = .ok l ∧
      k = l ++ moduleNames className := by
  rw [modulePath_eq hname, FileTree.locate] at h
  split at h
  · cases h
  · rw [walk_append] at h
    cases hl : t.walk (if output.anchor = .here then t.workingDirectory else []) output.parts with
    | error e =>
      rw [hl] at h
      cases h
    | ok l =>
      rw [hl] at h
      exact ⟨l, rfl, eq_of_walk (fun name hin => (isPart_moduleNames hname hin).ne_up) h⟩

/-- The modules of different classes stand at different places. -/
lemma eq_of_locate_modulePath {a b : String} (ha : Java.isClassName a = true) (hb : Java.isClassName b = true)
    (hka : t.locate (modulePath output a) = .ok k) (hkb : t.locate (modulePath output b) = .ok k) : a = b := by
  obtain ⟨l, hl, rfl⟩ := exists_of_locate_modulePath ha hka
  obtain ⟨l', hl', heq⟩ := exists_of_locate_modulePath hb hkb
  rw [hl] at hl'
  cases hl'
  exact moduleNames_injective (List.append_cancel_left heq)

/-- The file of a module is not on the way to another one. -/
lemma modulePath_not_on_way {a b : String} (ha : Java.isClassName a = true) (hb : Java.isClassName b = true) :
    ¬(modulePath output a).parts <+: (modulePath output b).parent.parts := by
  rw [modulePath_eq ha, modulePath_eq hb, Path.parent, List.dropLast_append_of_ne_nil (moduleNames_ne_nil b),
    List.prefix_append_right_inj]
  exact not_moduleNames_on_way hb a

/-! ## Several modules -/

/-- The module is the last one of its class. -/
def IsLast (m : Module) (modules : List Module) : Prop :=
  ∃ front back, modules = front ++ m :: back ∧ ∀ other ∈ back, other.name ≠ m.name

/-- What is left behind once the modules have been written: directories are kept, each class has the text that was
written for it last, and the files that are none of theirs are as they were. -/
structure FileTree.Saves (t t' : FileTree) (output : Path) (modules : List Module) : Prop where
  keeps : t.Keeps t'
  text : ∀ m, IsLast m modules → t'.read (modulePath output m.name) = .ok m.contents.toUTF8
  others : ∀ k, (∀ m ∈ modules, t'.locate (modulePath output m.name) ≠ .ok k) →
    ∀ bytes, t'.entry? k = some (.file bytes) ↔ t.entry? k = some (.file bytes)

namespace FileTree.Saves

lemma nil (t : FileTree) (output : Path) : t.Saves t output [] := by
  refine ⟨(Grows.refl t).keeps, ?_, fun _ _ _ => Iff.rfl⟩
  rintro m ⟨front, back, hsplit, -⟩
  simp at hsplit

lemma cons (hnames : ∀ other ∈ m :: modules, Java.isClassName other.name = true)
    (hfirst : t.Wrote t₁ (modulePath output m.name) m.contents.toUTF8 l) (hrest : t₁.Saves t' output modules) :
    t.Saves t' output (m :: modules) := by
  have hlocate := hrest.keeps.locate hfirst.locate
  refine ⟨hfirst.keeps.trans hrest.keeps, ?_, fun k hk bytes => ?_⟩
  · rintro last ⟨front, back, hsplit, hlater⟩
    rcases List.cons_eq_append_iff.1 hsplit with ⟨rfl, hback⟩ | ⟨front', rfl, hmodules⟩
    · -- No later module stands where the first one does.
      cases hback
      refine read_eq_ok.2 ⟨l, hlocate, (hrest.others l (fun other hother hsame => ?_) _).2 hfirst.file⟩
      refine hlater other hother (eq_of_locate_modulePath ?_ ?_ hsame hlocate)
      · exact hnames other (List.mem_cons_of_mem _ hother)
      · exact hnames m List.mem_cons_self
    · exact hrest.text last ⟨front', back, hmodules, hlater⟩
  · have hne : k ≠ l := by
      rintro rfl
      exact hk m List.mem_cons_self hlocate
    rw [hrest.others k (fun other hother => hk other (List.mem_cons_of_mem _ hother)) bytes, hfirst.others k hne]

/-- Directories that are added leave the files of modules alone. -/
lemma grows (h : t.Saves t₁ output modules) (hgrows : t₁.Grows t') : t.Saves t' output modules := by
  refine ⟨h.keeps.trans hgrows.keeps, fun m hm => ?_, fun k hk bytes => ?_⟩
  · obtain ⟨l, hlocate, hfile⟩ := read_eq_ok.1 (h.text m hm)
    exact read_eq_ok.2 ⟨l, hgrows.keeps.locate hlocate, hgrows.file_iff.2 hfile⟩
  · rw [hgrows.file_iff, h.others k fun m hm hsame => hk m hm (hgrows.keeps.locate hsame)]

end FileTree.Saves

/-- Saving stops at a module, after those in `written`. -/
structure StopsAt (t t' : FileTree) (output : Path) (modules written : List Module) (m : Module) (e : SaveError) :
    Prop where
  split : ∃ rest, modules = written ++ m :: rest
  path : e.path = modulePath output m.name
  before : ∃ t₁, saveModules output written t = .ok (written.map fun m => modulePath output m.name) t₁ ∧
    saveModule output m t₁ = .error e t'
  saves : t.Saves t' output written

/-- Modules are written in order up to the first one that cannot be. -/
theorem saveModules_cases (output : Path) (hnames : ∀ m ∈ modules, Java.isClassName m.name = true) (t : FileTree) :
    (∃ t', saveModules output modules t = .ok (modules.map fun m => modulePath output m.name) t' ∧
      t.Saves t' output modules) ∨
    ∃ e t' written m, saveModules output modules t = .error e t' ∧ StopsAt t t' output modules written m e := by
  induction modules generalizing t with
  | nil => exact .inl ⟨t, rfl, .nil t output⟩
  | cons m modules ih =>
    cases hsave : saveModule output m t with
    | error e t' =>
      obtain ⟨hpath, hgrows⟩ := saveModule_eq_error hsave
      exact .inr ⟨e, t', [], m, mapM_cons_stopped hsave, ⟨modules, rfl⟩, hpath, ⟨t, rfl, hsave⟩,
        (Saves.nil t output).grows hgrows⟩
    | ok p t₁ =>
      obtain ⟨rfl, l, hwrote⟩ := saveModule_eq_ok hsave
      have hrest : ∀ other ∈ modules, Java.isClassName other.name = true := fun other hother =>
        hnames other (List.mem_cons_of_mem _ hother)
      rcases ih hrest t₁ with ⟨t', hmodules, hsaves⟩ | ⟨e, t', written, last, hmodules, hstops⟩
      · exact .inl ⟨t', mapM_cons_ok hsave hmodules, .cons hnames hwrote hsaves⟩
      · obtain ⟨⟨rest, rfl⟩, hpath, ⟨t₂, hwritten, hlast⟩, hsaves⟩ := hstops
        refine .inr ⟨e, t', m :: written, last, mapM_cons_error hsave hmodules, ⟨rest, rfl⟩, hpath,
          ⟨t₂, mapM_cons_ok hsave hwritten, hlast⟩, .cons (fun other hother => hnames other ?_) hwrote hsaves⟩
        exact (List.prefix_append (m :: written) (last :: rest)).subset hother

/-- Where files and directories are apart, every module can be written. -/
theorem saveModules_of_apart {names : List String} (h : t.Apart output l names)
    (hstorable : ∀ m ∈ modules, IsStorable m.name) :
    ∃ t', saveModules output modules t = .ok (modules.map fun m => modulePath output m.name) t' := by
  induction modules generalizing t with
  | nil => exact ⟨t, rfl⟩
  | cons m modules ih =>
    have hm := hstorable m List.mem_cons_self
    obtain ⟨t₁, hmade, hfree, hsave⟩ :=
      saveModule_ok h.leads hm (h.clear hm.isClassName) (h.entry_ne_directory m.name)
    obtain ⟨t', hrest⟩ := ih (h.put m.contents.toUTF8 hm.isClassName hmade hfree) fun other hother =>
      hstorable other (List.mem_cons_of_mem _ hother)
    exact ⟨t', mapM_cons_ok hsave hrest⟩

/-- Saving goes on in order up to the first module that cannot be written, and leaves what was written last for each
class, and all other files as they were. Different classes have different files, and none is where another one needs a
directory, so that in an empty output directory every module is written. -/
theorem saveModules_in_order (t : FileTree) (output : Path) (hnames : ∀ m ∈ modules, Java.isClassName m.name = true) :
    ((∃ t', saveModules output modules t = .ok (modules.map fun m => modulePath output m.name) t' ∧
        t.Saves t' output modules) ∨
      ∃ e t' written m, saveModules output modules t = .error e t' ∧ StopsAt t t' output modules written m e) ∧
    (∀ a ∈ modules, ∀ b ∈ modules,
      (a.name ≠ b.name → modulePath output a.name ≠ modulePath output b.name ∧
        ∀ t' k, FileTree.locate t' (modulePath output a.name) = .ok k →
          FileTree.locate t' (modulePath output b.name) ≠ .ok k) ∧
      ¬(modulePath output a.name).parts <+: (modulePath output b.name).parent.parts) ∧
    (t.IsVacant output → (∀ m ∈ modules, ∀ name ∈ moduleNames m.name, name.utf8ByteSize ≤ nameLimit) →
      ∃ t', saveModules output modules t = .ok (modules.map fun m => modulePath output m.name) t' ∧
        t.Saves t' output modules) := by
  have hcases := saveModules_cases output hnames t
  refine ⟨hcases, fun a ha b hb => ⟨fun hne => ⟨fun hpaths => ?_, fun t' k hka hkb => ?_⟩, ?_⟩,
    fun hvacant hshort => ?_⟩
  · exact hne (modulePath_injective (hnames a ha) (hnames b hb) hpaths)
  · exact hne (eq_of_locate_modulePath (hnames a ha) (hnames b hb) hka hkb)
  · exact modulePath_not_on_way (hnames a ha) (hnames b hb)
  · obtain ⟨l, names, hapart⟩ := hvacant.apart
    obtain ⟨t', hsave⟩ := saveModules_of_apart hapart fun m hm => ⟨hnames m hm, hshort m hm⟩
    rcases hcases with ⟨t'', hok, hsaves⟩ | ⟨e, t'', _, _, herror, _⟩
    · exact ⟨t'', hok, hsaves⟩
    · rw [hsave] at herror
      cases herror

theorem saveModules_in_order_package :
    let modules : List Module := [⟨"a.b", "1"⟩, ⟨"a.b.C", "2"⟩, ⟨"a.b", "3"⟩]
    let output : Path := ⟨.here, ["out"]⟩
    (∀ m ∈ modules, Java.isClassName m.name = true) ∧
    ∃ t', saveModules output modules (.ofEntries ["work"] []) =
        .ok [⟨.here, ["out", "a", "b.ts"]⟩, ⟨.here, ["out", "a", "b", "C.ts"]⟩, ⟨.here, ["out", "a", "b.ts"]⟩] t' ∧
      FileTree.read t' ⟨.here, ["out", "a", "b.ts"]⟩ = .ok "3".toUTF8 ∧
      FileTree.read t' ⟨.here, ["out", "a", "b", "C.ts"]⟩ = .ok "2".toUTF8 := by
  intro modules output
  have hnames : ∀ m ∈ modules, Java.isClassName m.name = true := by decide +kernel
  have hvacant : (FileTree.ofEntries ["work"] []).IsVacant output := by
    refine ⟨["work"], ["out"], ⟨⟨[], rfl, rfl⟩, rfl, ?_, by simp [output]⟩, fun more hmore _ => ?_⟩
    · simpa using ⟨by decide, by decide⟩
    · cases more with
      | nil => exact absurd rfl hmore
      | cons name more => rfl
  obtain ⟨t', hsave, hsaves⟩ :=
    (saveModules_in_order (.ofEntries ["work"] []) output hnames).2.2 hvacant (by decide +kernel)
  have hpaths : modules.map (fun m => modulePath output m.name) =
      [⟨.here, ["out", "a", "b.ts"]⟩, ⟨.here, ["out", "a", "b", "C.ts"]⟩, ⟨.here, ["out", "a", "b.ts"]⟩] := by
    decide +kernel
  simp only [modules, List.map_cons, List.map_nil, List.cons.injEq, and_true] at hpaths
  refine ⟨hnames, t', ?_, ?_, ?_⟩
  · rw [hsave]
    simp only [modules, List.map_cons, List.map_nil, hpaths.1, hpaths.2.1]
  · rw [← hpaths.1]
    exact hsaves.text ⟨"a.b", "3"⟩ ⟨[⟨"a.b", "1"⟩, ⟨"a.b.C", "2"⟩], [], rfl, by simp⟩
  · rw [← hpaths.2.1]
    exact hsaves.text ⟨"a.b.C", "2"⟩ ⟨[⟨"a.b", "1"⟩], [⟨"a.b", "3"⟩], rfl, by simp⟩

end Typings.Files
