import Mathlib.Data.List.Basic
import Typings.Configuration
import Typings.Proofs.Actions

/-!
# The settings of a directory

A settings file that cannot be read as a document is as good as none. The settings stand behind one key of the file of their
own and behind two keys of the project file. If there are tables on the way to them, they come to a configuration that
follows them or to an error that names the file and the setting of a wrong type. A run is broken off without such an error if
something else stands on the way, or if a file that is read is not text.
-/

namespace Typings

open Toml (Table Value)

namespace Toml

/-- What stands behind a key: a table, or nothing where an entry is missing. Nothing can be said to stand there if something
other than a table stands on the way. -/
inductive StandsBehind : Key → Table → Option Table → Prop
  | here (t : Table) : StandsBehind [] t (some t)
  | missing {k : String} {ks : Key} {t : Table} (h : t.lookup k = none) : StandsBehind (k :: ks) t none
  | inside {k : String} {ks : Key} {t inner : Table} {found? : Option Table} (h : t.lookup k = some (.table inner))
    (hrest : StandsBehind ks inner found?) : StandsBehind (k :: ks) t found?

/-- A document is refused as no text exactly if its bytes are not UTF-8. -/
lemma ofBytes_eq_notText_iff {bytes : ByteArray} : ofBytes bytes = .error .notText ↔ Text.Utf8.decode? bytes = none := by
  rw [ofBytes]
  cases Text.Utf8.decode? bytes with
  | none => simp
  | some cs =>
    simp only [reduceCtorEq, iff_false, ofText]
    split
    · simp
    · split_ifs <;> simp

end Toml

namespace Configuration

open Toml (StandsBehind)

/-! ## Settings -/

/-- The strings that a setting lists: none if it is missing, a single one, or those of an array. -/
inductive Lists (settings : Table) (key : String) : List String → Prop
  | missing (h : settings.lookup key = none) : Lists settings key []
  | single {s : String} (h : settings.lookup key = some (.string s)) : Lists settings key [s]
  | several {ss : List String} (h : settings.lookup key = some (.array (ss.map .string))) : Lists settings key ss

/-- The configuration has what the settings say, and nothing where they say nothing. -/
structure Follows (c : Configuration) (settings : Table) : Prop where
  classpath : Lists settings "classpath" c.classpath
  sourcepath : Lists settings "sourcepath" c.sourcepath
  javap : settings.lookup "javap" = c.javap?.map .string

/-- What settings come to, given with their file: a configuration that follows them, or an error that names the file and a
setting of a wrong type. Without settings there are the defaults. -/
inductive ComesTo : Option (Files.Path × Table) → Except ConfigurationError Configuration → Prop
  | defaults : ComesTo none (.ok {})
  | configuration {path : Files.Path} {settings : Table} {c : Configuration} (h : c.Follows settings) :
    ComesTo (some (path, settings)) (.ok c)
  | notString {path : Files.Path} {settings : Table}
    (h : ∀ javap? : Option String, settings.lookup "javap" ≠ javap?.map .string) :
    ComesTo (some (path, settings)) (.error (.notString path "javap"))
  | notStrings {path : Files.Path} {settings : Table} {key : String} (hkey : key ∈ ["classpath", "sourcepath"])
    (h : ∀ ss, ¬Lists settings key ss) : ComesTo (some (path, settings)) (.error (.notStrings path key))

section Settings

variable {settings : Table} {key : String} {v : Value} {ss : List String}

lemma mapM_strings (ss : List String) :
    (ss.map Value.string).mapM (fun | .string s => some s | _ => none) = some ss := by
  induction ss with
  | nil => rfl
  | cons s ss ih => simp [ih]

lemma eq_of_mapM_strings {items : List Value} (h : items.mapM (fun | .string s => some s | _ => none) = some ss) :
    items = ss.map .string := by
  induction items generalizing ss with
  | nil =>
    cases h
    rfl
  | cons v items ih =>
    rw [List.mapM_cons] at h
    cases v with
    | string s =>
      obtain ⟨first, hfirst, h⟩ := Option.bind_eq_some_iff.1 h
      obtain ⟨rest, hrest, hss⟩ := Option.bind_eq_some_iff.1 h
      cases hfirst
      cases hss
      rw [ih hrest]
      rfl
    | scalar | array | table => cases h

lemma lists_of_stringsOf? (hv : settings.lookup key = some v) (h : stringsOf? v = some ss) : Lists settings key ss := by
  cases v with
  | string s =>
    cases h
    exact .single hv
  | array items =>
    obtain rfl := eq_of_mapM_strings h
    exact .several hv
  | scalar | table => cases h

lemma stringsOf?_of_lists (hv : settings.lookup key = some v) (h : Lists settings key ss) : stringsOf? v = some ss := by
  cases h with
  | missing h =>
    rw [hv] at h
    cases h
  | single h =>
    rw [hv] at h
    cases h
    rfl
  | several h =>
    rw [hv] at h
    cases h
    exact mapM_strings ss

lemma strings_cases (path : Files.Path) (key : String) (settings : Table) :
    (∃ ss, strings path key settings = .ok ss ∧ Lists settings key ss) ∨
      strings path key settings = .error (.notStrings path key) ∧ ∀ ss, ¬Lists settings key ss := by
  cases hv : settings.lookup key with
  | none => exact .inl ⟨[], by rw [strings, hv], .missing hv⟩
  | some v =>
    cases hs : stringsOf? v with
    | some ss => exact .inl ⟨ss, by simp only [strings, hv, hs, Option.elim_some], lists_of_stringsOf? hv hs⟩
    | none =>
      refine .inr ⟨by simp only [strings, hv, hs, Option.elim_none], fun ss h => ?_⟩
      rw [stringsOf?_of_lists hv h] at hs
      cases hs

lemma string?_cases (path : Files.Path) (key : String) (settings : Table) :
    (∃ s? : Option String, string? path key settings = .ok s? ∧ settings.lookup key = s?.map .string) ∨
      string? path key settings = .error (.notString path key) ∧
        ∀ s? : Option String, settings.lookup key ≠ s?.map .string := by
  cases hv : settings.lookup key with
  | none => exact .inl ⟨none, by rw [string?, hv], rfl⟩
  | some v =>
    cases v with
    | string s => exact .inl ⟨some s, by rw [string?, hv], rfl⟩
    | scalar | array | table =>
      refine .inr ⟨by rw [string?, hv], fun s? h => ?_⟩
      cases s? <;> cases h

/-- Settings come to a configuration that follows them, or to an error that names one of a wrong type. -/
lemma comesTo_ofSettings (path : Files.Path) (settings : Table) :
    ComesTo (some (path, settings)) (ofSettings path settings) := by
  rw [ofSettings]
  obtain ⟨javap?, hjavap, hlookup⟩ | ⟨hjavap, hwrong⟩ := string?_cases path "javap" settings
  · obtain ⟨classpath, hclasspath, hclasses⟩ | ⟨hclasspath, hwrong⟩ := strings_cases path "classpath" settings
    · obtain ⟨sourcepath, hsourcepath, hsources⟩ | ⟨hsourcepath, hwrong⟩ := strings_cases path "sourcepath" settings
      · rw [hjavap, hclasspath, hsourcepath]
        exact .configuration ⟨hclasses, hsources, hlookup⟩
      · rw [hjavap, hclasspath, hsourcepath]
        exact .notStrings (by decide) hwrong
    · rw [hjavap, hclasspath]
      exact .notStrings (by decide) hwrong
  · rw [hjavap]
    exact .notString hwrong

end Settings

/-! ## Documents -/

/-- Nothing at the path can be read as a document: there is no file, or a malformed one. -/
def IsUnreadable (tree : Files.FileTree) (path : Files.Path) : Prop :=
  ∀ bytes, tree.find? path = some (.file bytes) → ∃ message, Toml.ofBytes bytes = .error (.malformed message)

/-- The file at the path is read as the document. -/
def HoldsDocument (tree : Files.FileTree) (path : Files.Path) (t : Table) : Prop :=
  ∃ bytes, tree.find? path = some (.file bytes) ∧ Toml.ofBytes bytes = .ok t

/-- A run is broken off by an error that has no text. -/
def IsBrokenOff {α : Type} (outcome : Except ConfigurationError α) : Prop :=
  ∃ e, outcome = .error e ∧ e.message? = none

section Documents

variable {σ : Type} {tree : Files.FileTree} {path : Files.Path} {t : Table}

lemma isUnreadable_of_no_file (h : ∀ bytes, tree.find? path ≠ some (.file bytes)) : IsUnreadable tree path :=
  fun bytes hfile => absurd hfile (h bytes)

lemma isUnreadable_of_malformed {bytes : ByteArray} {message : String} (hfind : tree.find? path = some (.file bytes))
    (hread : Toml.ofBytes bytes = .error (.malformed message)) : IsUnreadable tree path := by
  intro bytes' h
  rw [hfind] at h
  cases h
  exact ⟨message, hread⟩

lemma document?_of_unreadable (h : IsUnreadable tree path) (s : Session σ) :
    ∃ s', document? tree path s = .ok none s' := by
  rw [document?]
  cases hfind : tree.find? path with
  | none => exact ⟨s, rfl⟩
  | some entry =>
    cases entry with
    | directory => exact ⟨_, rfl⟩
    | file bytes =>
      obtain ⟨message, hmalformed⟩ := h bytes hfind
      simp only [hmalformed]
      exact ⟨_, rfl⟩

lemma document?_of_holds (h : HoldsDocument tree path t) (s : Session σ) :
    document? tree path s = .ok (some t) s := by
  obtain ⟨bytes, hfind, hread⟩ := h
  simp only [document?, hfind, hread]
  rfl

/-- A file is unreadable, holds a document, or breaks the run off. -/
lemma document?_cases (tree : Files.FileTree) (path : Files.Path) (s : Session σ) :
    IsUnreadable tree path ∨ (∃ t, HoldsDocument tree path t) ∨
      ∃ e s', document? tree path s = .error e s' ∧ e.message? = none := by
  cases hfind : tree.find? path with
  | none => exact .inl (isUnreadable_of_no_file (by simp [hfind]))
  | some entry =>
    cases entry with
    | directory => exact .inl (isUnreadable_of_no_file (by simp [hfind]))
    | file bytes =>
      cases hread : Toml.ofBytes bytes with
      | ok t => exact .inr (.inl ⟨t, bytes, hfind, hread⟩)
      | error cause =>
        cases cause with
        | malformed message => exact .inl (isUnreadable_of_malformed hfind hread)
        | notText | tooManyDigits =>
          refine .inr (.inr ?_)
          simp only [document?, hfind, hread]
          exact ⟨_, _, rfl, rfl⟩

end Documents

/-! ## Loading -/

/-- The settings of a directory, with the file that they stand in. They are looked for in the file of their own, and in the
project file if that one is unreadable. -/
inductive SettingsOf (tree : Files.FileTree) (directory : Files.Path) : Option (Files.Path × Table) → Prop
  | own {t : Table} {settings? : Option Table} (h : HoldsDocument tree (directory.join settingsFile) t)
    (hbehind : StandsBehind ["javadecl"] t settings?) :
    SettingsOf tree directory (settings?.map (directory.join settingsFile, ·))
  | project {t : Table} {settings? : Option Table} (hown : IsUnreadable tree (directory.join settingsFile))
    (h : HoldsDocument tree (directory.join projectFile) t) (hbehind : StandsBehind ["tool", "javadecl"] t settings?) :
    SettingsOf tree directory (settings?.map (directory.join projectFile, ·))
  | nowhere (hown : IsUnreadable tree (directory.join settingsFile))
    (hproject : IsUnreadable tree (directory.join projectFile)) : SettingsOf tree directory none

/-- The configuration of the settings that are found, if there are any. -/
def ofFound : Option (Files.Path × Table) → Except ConfigurationError Configuration
  | none => .ok {}
  | some (path, settings) => ofSettings path settings

lemma comesTo_ofFound (found? : Option (Files.Path × Table)) : ComesTo found? (ofFound found?) := by
  cases found? with
  | none => exact .defaults
  | some found => exact comesTo_ofSettings found.1 found.2

section Loading

variable {σ : Type} {tree : Files.FileTree} {directory path : Files.Path} {t : Table}

lemma loadProject_of_unreadable (h : IsUnreadable tree path) (s : Session σ) :
    Action.valueOf (loadProject tree path s) = .ok {} := by
  obtain ⟨s', hdocument⟩ := document?_of_unreadable h s
  rw [loadProject, bind_of_ok hdocument]
  rfl

lemma loadProject_of_standsBehind {settings? : Option Table} (h : HoldsDocument tree path t)
    (hbehind : StandsBehind ["tool", "javadecl"] t settings?) (s : Session σ) :
    Action.valueOf (loadProject tree path s) = ofFound (settings?.map (path, ·)) := by
  rw [loadProject, bind_of_ok (document?_of_holds h s)]
  cases hbehind with
  | missing htool =>
    simp only [tableIn?, htool, Action.ofExcept, pure_bind, Option.getD_none, List.lookup_nil]
    rfl
  | inside htool hbehind =>
    simp only [tableIn?, htool, Action.ofExcept, pure_bind, Option.getD_some]
    cases hbehind with
    | missing hsettings =>
      rw [hsettings]
      rfl
    | inside hsettings hbehind =>
      cases hbehind
      rw [hsettings]
      exact Action.valueOf_ofExcept _ _

/-- Unless there are tables on the way to the settings of the project file, it breaks the run off. -/
lemma loadProject_cases (h : HoldsDocument tree path t) (s : Session σ) :
    (∃ settings?, StandsBehind ["tool", "javadecl"] t settings?) ∨ IsBrokenOff (Action.valueOf (loadProject tree path s)) := by
  rw [loadProject, bind_of_ok (document?_of_holds h s)]
  cases htool : t.lookup "tool" with
  | none => exact .inl ⟨none, .missing htool⟩
  | some v =>
    cases v with
    | table tools =>
      simp only [tableIn?, htool, Action.ofExcept, pure_bind, Option.getD_some]
      cases hsettings : tools.lookup "javadecl" with
      | none => exact .inl ⟨none, .inside htool (.missing hsettings)⟩
      | some w =>
        cases w with
        | table settings => exact .inl ⟨some settings, .inside htool (.inside hsettings (.here settings))⟩
        | string | scalar | array => exact .inr ⟨.notTable, rfl, rfl⟩
    | string | scalar | array =>
      simp only [tableIn?, htool]
      exact .inr ⟨.notTable, rfl, rfl⟩

lemma load_of_unreadable (h : IsUnreadable tree (directory.join settingsFile)) (s : Session σ) :
    ∃ s' : Session σ, Action.valueOf (load tree directory s) =
      Action.valueOf (loadProject tree (directory.join projectFile) s') := by
  obtain ⟨s', hdocument⟩ := document?_of_unreadable h s
  rw [load, bind_of_ok hdocument]
  exact ⟨s', rfl⟩

lemma load_of_standsBehind {settings? : Option Table} (h : HoldsDocument tree (directory.join settingsFile) t)
    (hbehind : StandsBehind ["javadecl"] t settings?) (s : Session σ) :
    Action.valueOf (load tree directory s) = ofFound (settings?.map (directory.join settingsFile, ·)) := by
  rw [load, bind_of_ok (document?_of_holds h s)]
  dsimp only
  rw [bind_of_ok (Action.report_eq _ s)]
  cases hbehind with
  | missing hsettings =>
    simp only [tableIn?, hsettings]
    rfl
  | inside hsettings hbehind =>
    cases hbehind
    simp only [tableIn?, hsettings, Action.ofExcept, pure_bind]
    exact Action.valueOf_ofExcept _ _

/-- Unless a table stands where the settings should be in the file of their own, it breaks the run off. -/
lemma load_own_cases (h : HoldsDocument tree (directory.join settingsFile) t) (s : Session σ) :
    (∃ settings?, StandsBehind ["javadecl"] t settings?) ∨ IsBrokenOff (Action.valueOf (load tree directory s)) := by
  rw [load, bind_of_ok (document?_of_holds h s)]
  cases hsettings : t.lookup "javadecl" with
  | none => exact .inl ⟨none, .missing hsettings⟩
  | some v =>
    cases v with
    | table settings => exact .inl ⟨some settings, .inside hsettings (.here settings)⟩
    | string | scalar | array =>
      simp only [tableIn?, hsettings]
      exact .inr ⟨.notTable, rfl, rfl⟩

lemma SettingsOf.load_eq {found? : Option (Files.Path × Table)} (h : SettingsOf tree directory found?) (s : Session σ) :
    Action.valueOf (load tree directory s) = ofFound found? := by
  cases h with
  | own h hbehind => exact load_of_standsBehind h hbehind s
  | project hown h hbehind =>
    obtain ⟨s', hload⟩ := load_of_unreadable hown s
    rw [hload, loadProject_of_standsBehind h hbehind]
  | nowhere hown hproject =>
    obtain ⟨s', hload⟩ := load_of_unreadable hown s
    rw [hload, loadProject_of_unreadable hproject]
    rfl

/-- Bytes that are not UTF-8 break loading off. -/
lemma isBrokenOff_of_not_utf8 {bytes : ByteArray} (hfind : tree.find? (directory.join settingsFile) = some (.file bytes))
    (hbytes : Text.Utf8.decode? bytes = none) (s : Session σ) : IsBrokenOff (Action.valueOf (load tree directory s)) := by
  have hdocument : document? tree (directory.join settingsFile) s = .error .notText s := by
    simp only [document?, hfind, Toml.ofBytes_eq_notText_iff.2 hbytes]
    rfl
  rw [load, bind_of_error hdocument]
  exact ⟨.notText, rfl, rfl⟩

/-- A run is broken off unless it is settled where the settings are. -/
lemma settingsOf_cases (tree : Files.FileTree) (directory : Files.Path) (s : Session σ) :
    (∃ found?, SettingsOf tree directory found?) ∨ IsBrokenOff (Action.valueOf (load tree directory s)) := by
  obtain hown | ⟨t, hown⟩ | ⟨e, s', hdocument, he⟩ := document?_cases tree (directory.join settingsFile) s
  · obtain ⟨s', hload⟩ := load_of_unreadable hown s
    rw [hload]
    obtain hproject | ⟨t, hproject⟩ | ⟨e, s'', hdocument, he⟩ := document?_cases tree (directory.join projectFile) s'
    · exact .inl ⟨none, .nowhere hown hproject⟩
    · exact (loadProject_cases hproject s').imp_left fun ⟨_, hbehind⟩ => ⟨_, .project hown hproject hbehind⟩
    · rw [loadProject, bind_of_error hdocument]
      exact .inr ⟨e, rfl, he⟩
  · exact (load_own_cases hown s).imp_left fun ⟨_, hbehind⟩ => ⟨_, .own hown hbehind⟩
  · rw [load, bind_of_error hdocument]
    exact .inr ⟨e, rfl, he⟩

end Loading

/-! ## Files that are as good as none -/

section Absent

variable {σ : Type} {tree tree' : Files.FileTree} {directory path : Files.Path}

/-- Any two sessions, as nothing that was reported before is read. -/
abbrev anyTime (_ _ : Session σ) : Prop := True

lemma report_alike (e : Event) :
    Action.Alike anyTime (Action.report e : Action σ ConfigurationError Unit) (Action.report e) :=
  fun _ _ _ => ⟨rfl, trivial⟩

/-- How a path is read depends on what stands there only. -/
lemma document?_alike (h : tree.find? path = tree'.find? path) :
    Action.Alike anyTime (document? (σ := σ) tree path) (document? (σ := σ) tree' path) := by
  rw [document?, document?, h]
  cases tree'.find? path with
  | none => exact .pure none
  | some entry =>
    cases entry with
    | directory => exact (report_alike _).bind fun _ => .pure none
    | file bytes =>
      dsimp only
      cases Toml.ofBytes bytes with
      | ok t => exact .pure (some t)
      | error cause =>
        cases cause with
        | malformed message => exact (report_alike _).bind fun _ => .pure none
        | notText | tooManyDigits => exact .throw _

lemma loadProject_alike (h : tree.find? path = tree'.find? path) :
    Action.Alike anyTime (loadProject (σ := σ) tree path) (loadProject (σ := σ) tree' path) := by
  refine (document?_alike h).bind fun t? => ?_
  cases t? with
  | none => exact .pure _
  | some t =>
    refine (Action.Alike.ofExcept _).bind fun tools? => ?_
    cases (tools?.getD []).lookup "javadecl" with
    | none => exact .pure _
    | some v =>
      refine (report_alike _).bind fun _ => ?_
      cases v with
      | table settings => exact .ofExcept _
      | string | scalar | array => exact .throw _

/-- An unreadable file is as good as any other one. -/
lemma load_congr (hown : IsUnreadable tree (directory.join settingsFile))
    (hown' : IsUnreadable tree' (directory.join settingsFile))
    (hproject : tree.find? (directory.join projectFile) = tree'.find? (directory.join projectFile)) (s s' : Session σ) :
    Action.valueOf (load tree directory s) = Action.valueOf (load tree' directory s') := by
  obtain ⟨t, hload⟩ := load_of_unreadable hown s
  obtain ⟨t', hload'⟩ := load_of_unreadable hown' s'
  rw [hload, hload']
  exact (loadProject_alike hproject t t' trivial).1

end Absent

/-- Loading ends with a configuration or an error that has a text exactly if each file that is read is unreadable or holds a
document, and tables stand on the way to the settings. It then comes to a configuration that follows the settings or to an
error that names one of a wrong type. A file of their own that is unreadable is as good as none. -/
theorem load_follows_settings {σ : Type} (tree : Files.FileTree) (directory : Files.Path) (s : Session σ) :
    ((∃ found?, SettingsOf tree directory found?) ↔
      (∃ c, Action.valueOf (load tree directory s) = .ok c) ∨
        ∃ e message, Action.valueOf (load tree directory s) = .error e ∧ e.message? = some message) ∧
    (∀ found?, SettingsOf tree directory found? → ComesTo found? (Action.valueOf (load tree directory s))) ∧
    ∀ tree' : Files.FileTree, IsUnreadable tree (directory.join settingsFile) →
      tree'.find? (directory.join settingsFile) = none →
      tree'.find? (directory.join projectFile) = tree.find? (directory.join projectFile) →
      Action.valueOf (load tree directory s) = Action.valueOf (load tree' directory s) := by
  have hcomes : ∀ found?, SettingsOf tree directory found? → ComesTo found? (Action.valueOf (load tree directory s)) := by
    intro found? h
    rw [h.load_eq s]
    exact comesTo_ofFound found?
  refine ⟨⟨fun ⟨found?, h⟩ => ?_, fun hended => ?_⟩, hcomes, fun tree' hown hnone hproject => ?_⟩
  · generalize Action.valueOf (load tree directory s) = outcome at hcomes ⊢
    cases hcomes found? h with
    | defaults => exact .inl ⟨_, rfl⟩
    | configuration _ => exact .inl ⟨_, rfl⟩
    | notString _ => exact .inr ⟨_, _, rfl, rfl⟩
    | notStrings _ _ => exact .inr ⟨_, _, rfl, rfl⟩
  · obtain hfound | ⟨e, hbroken, hnone⟩ := settingsOf_cases tree directory s
    · exact hfound
    · -- An error without a text is neither a configuration nor an error that has one.
      obtain ⟨c, hc⟩ | ⟨e', message, he, hmessage⟩ := hended
      · rw [hbroken] at hc
        cases hc
      · rw [hbroken] at he
        cases he
        rw [hnone] at hmessage
        cases hmessage
  · exact load_congr hown (isUnreadable_of_no_file (by simp [hnone])) hproject.symm s s

/-- A working directory with the given files. -/
def directoryOf (files : List (String × ByteArray)) : Files.FileTree :=
  .ofEntries ["work"] (files.map fun (name, bytes) => (⟨.here, [name]⟩, .file bytes))

def workPath : Files.Path := ⟨.root, ["work"]⟩

def openHeader : ByteArray := "[javadecl\n".toUTF8

def twoPlaces : ByteArray := "[tool.javadecl]\nclasspath = [\"lib\", \"out\"]\n".toUTF8

/-- A directory with a malformed settings file and a project file. -/
def malformedBeside : Files.FileTree := directoryOf [(".javadecl.toml", openHeader), ("pyproject.toml", twoPlaces)]

/-- A directory with the project file only. -/
def projectAlone : Files.FileTree := directoryOf [("pyproject.toml", twoPlaces)]

lemma isUnreadable_malformedBeside : IsUnreadable malformedBeside (workPath.join settingsFile) := by
  have hfind : malformedBeside.find? (workPath.join settingsFile) = some (.file openHeader) := by decide +kernel
  have hmalformed : (Toml.ofBytes openHeader).map (fun _ => ()) =
      .error (.malformed "Expected ']' at the end of a table declaration (at line 1, column 10)") := by
    decide +kernel
  cases hread : Toml.ofBytes openHeader with
  | ok t =>
    rw [hread] at hmalformed
    cases hmalformed
  | error cause =>
    rw [hread] at hmalformed
    cases hmalformed
    exact isUnreadable_of_malformed hfind hread

/-- Beside a malformed settings file, the project file is followed as if it were alone. -/
theorem load_follows_settings_malformed :
    IsUnreadable malformedBeside (workPath.join settingsFile) ∧ projectAlone.find? (workPath.join settingsFile) = none ∧
    (∃ path settings, SettingsOf malformedBeside workPath (some (path, settings)) ∧
      Follows { classpath := ["lib", "out"] } settings) ∧
    Action.valueOf (load projectAlone workPath ⟨(), #[]⟩) = .ok { classpath := ["lib", "out"] } := by
  have hnone : projectAlone.find? (workPath.join settingsFile) = none := by decide +kernel
  have hproject : projectAlone.find? (workPath.join projectFile) = malformedBeside.find? (workPath.join projectFile) := by
    decide +kernel
  have hrun : Action.valueOf (load malformedBeside workPath (⟨(), #[]⟩ : Session Unit)) =
      .ok { classpath := ["lib", "out"] } := by
    decide +kernel
  obtain ⟨hends, hcomes, habsent⟩ := load_follows_settings malformedBeside workPath (⟨(), #[]⟩ : Session Unit)
  have hsame := habsent projectAlone isUnreadable_malformedBeside hnone hproject
  refine ⟨isUnreadable_malformedBeside, hnone, ?_, hsame.symm.trans hrun⟩
  -- The run ends with a configuration other than the defaults, so there are settings that it follows.
  obtain ⟨found?, hfound⟩ := hends.2 (.inl ⟨_, hrun⟩)
  have houtcome := hcomes found? hfound
  rw [hrun] at houtcome
  cases houtcome with
  | configuration hfollows => exact ⟨_, _, hfound, hfollows⟩

/-- A byte that is not text breaks loading off, and so does a number in the place of the settings or on the way to them. -/
theorem load_broken_off :
    IsBrokenOff (Action.valueOf (load (directoryOf [(".javadecl.toml", ⟨#[0xFF]⟩)]) workPath (⟨(), #[]⟩ : Session Unit))) ∧
    IsBrokenOff (Action.valueOf
      (load (directoryOf [(".javadecl.toml", "javadecl = 3\n".toUTF8)]) workPath (⟨(), #[]⟩ : Session Unit))) ∧
    IsBrokenOff (Action.valueOf
      (load (directoryOf [("pyproject.toml", "tool = 3\n".toUTF8)]) workPath (⟨(), #[]⟩ : Session Unit))) := by
  have hfind : (directoryOf [(".javadecl.toml", ⟨#[0xFF]⟩)]).find? (workPath.join settingsFile) =
      some (.file ⟨#[0xFF]⟩) := by
    decide +kernel
  have hbytes : Text.Utf8.decode? ⟨#[0xFF]⟩ = none := by decide +kernel
  exact ⟨isBrokenOff_of_not_utf8 hfind hbytes _, ⟨.notTable, by decide +kernel, rfl⟩, ⟨.notTable, by decide +kernel, rfl⟩⟩

end Configuration

end Typings
