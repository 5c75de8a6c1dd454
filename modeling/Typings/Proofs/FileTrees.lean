import Mathlib.Data.List.Basic
import Mathlib.Data.List.Induction
import Mathlib.Data.List.Nodup
import Mathlib.Data.List.Perm.Basic
import Typings.Files.Save
import Typings.Proofs.Actions

/-!
# Directories and files

A path whose first parts lead to a directory goes on by plain names. As long as no file stands in the way, making the
directories of such a path succeeds; then they all are there, and nothing else has changed. What stands below a
directory is what the tree has at the locations that start there.
-/

namespace Typings.Files

namespace FileTree

variable {t t' : FileTree} {l k : Location} {names : List String} {name : String} {e : Entry}

lemma entry_eq_lookup (hl : l ≠ []) : t.entry? l = t.entries.lookup l := by
  unfold entry?
  rw [if_neg hl]

lemma entry_put_self (hl : l ≠ []) : FileTree.entry? (t.put l e) l = some e := by
  rw [entry_eq_lookup hl]
  simp [put]

lemma entry_put_of_ne (h : k ≠ l) : FileTree.entry? (t.put l e) k = t.entry? k := by
  have hbeq : (k == l) = false := by simpa using h
  unfold entry?
  simp [put, List.lookup_cons, hbeq]

/-! ## Going down -/

/-- A name by which a walk goes down. -/
structure IsStep (name : String) : Prop where
  down : name ≠ ".."
  short : name.utf8ByteSize ≤ nameLimit

/-- All locations on the way down by the given names are directories. -/
def Open (t : FileTree) (l : Location) (names : List String) : Prop :=
  ∀ front, front <+: names → t.entry? (l ++ front) = some .directory

/-- No file stands on the way down by the given names. -/
def Clear (t : FileTree) (l : Location) (names : List String) : Prop :=
  ∀ front, front <+: names → ∀ bytes, t.entry? (l ++ front) ≠ some (.file bytes)

lemma open_nil : t.Open l [] ↔ t.entry? l = some .directory := by
  simp [Open]

lemma open_snoc : t.Open l (names ++ [name]) ↔ t.Open l names ∧ t.entry? (l ++ (names ++ [name])) = some .directory := by
  simp only [Open, List.prefix_concat_iff, or_imp, forall_and, forall_eq]
  exact and_comm

lemma clear_snoc : t.Clear l (names ++ [name]) ↔
    t.Clear l names ∧ ∀ bytes, t.entry? (l ++ (names ++ [name])) ≠ some (.file bytes) := by
  simp only [Clear, List.prefix_concat_iff, or_imp, forall_and, forall_eq]
  exact and_comm

lemma Open.clear (h : t.Open l names) : t.Clear l names := by
  intro front hfront bytes
  rw [h front hfront]
  simp

lemma walk_append (t : FileTree) (l : Location) (as bs : List String) :
    t.walk l (as ++ bs) = t.walk l as >>= fun k => t.walk k bs := by
  induction as generalizing l with
  | nil => rfl
  | cons a as ih =>
    simp only [List.cons_append, walk]
    split
    · rfl
    · rfl
    · split
      · exact ih _
      · split
        · rfl
        · exact ih _

lemma walk_step (hl : t.entry? l = some .directory) (hname : IsStep name) : t.walk l [name] = .ok (l ++ [name]) := by
  simp [walk, hl, hname.down, Nat.not_lt.2 hname.short]

lemma walk_open (hsteps : ∀ name ∈ names, IsStep name) (h : t.Open l names) : t.walk l names = .ok (l ++ names) := by
  induction names using List.reverseRecOn with
  | nil => simp [walk]
  | append_singleton names name ih =>
    obtain ⟨hopen, _⟩ := open_snoc.1 h
    have hinit := ih (fun other hother => hsteps other (List.mem_append_left _ hother)) hopen
    rw [walk_append, hinit]
    refine (walk_step (hopen names List.prefix_rfl) (hsteps name (by simp))).trans ?_
    rw [List.append_assoc]

lemma walk_snoc_of_open (hsteps : ∀ other ∈ names ++ [name], IsStep other) (h : t.Open l names) :
    t.walk l (names ++ [name]) = .ok (l ++ (names ++ [name])) := by
  have hinit := walk_open (fun other hother => hsteps other (List.mem_append_left _ hother)) h
  rw [walk_append, hinit]
  refine (walk_step (h names List.prefix_rfl) (hsteps name (by simp))).trans ?_
  rw [List.append_assoc]

/-- Where no file stands in the way, a walk gets to its end or misses a directory. -/
lemma open_or_notFound (hsteps : ∀ name ∈ names, IsStep name) (h : t.Clear l names) (last : String) :
    t.Open l names ∨ t.walk l (names ++ [last]) = .error .notFound := by
  have hhalt : ∀ {k : Location} (next : String), t.entry? k = none → t.walk k [next] = .error .notFound := by
    intro k next hk
    simp [walk, hk]
  induction names using List.reverseRecOn generalizing last with
  | nil =>
    cases hl : t.entry? l with
    | none => exact .inr (hhalt last hl)
    | some e =>
      cases e with
      | file bytes => exact absurd hl (by simpa using h [] List.prefix_rfl bytes)
      | directory => exact .inl (open_nil.2 hl)
  | append_singleton names name ih =>
    obtain ⟨hclear, hfree⟩ := clear_snoc.1 h
    rcases ih (fun other hother => hsteps other (List.mem_append_left _ hother)) hclear name with hopen | hmissing
    · have hwalk := walk_snoc_of_open hsteps hopen
      cases hl : t.entry? (l ++ (names ++ [name])) with
      | none =>
        refine .inr ?_
        rw [walk_append, hwalk]
        exact hhalt last hl
      | some e =>
        cases e with
        | file bytes => exact absurd hl (hfree bytes)
        | directory => exact .inl (open_snoc.2 ⟨hopen, hl⟩)
    · refine .inr ?_
      rw [walk_append, hmissing]
      rfl

lemma eq_of_walk (hdown : ∀ name ∈ names, name ≠ "..") (h : t.walk l names = .ok k) : k = l ++ names := by
  induction names generalizing l with
  | nil => simpa [walk] using h.symm
  | cons name names ih =>
    simp only [walk, hdown name List.mem_cons_self, if_false] at h
    split at h
    · cases h
    · cases h
    · split_ifs at h
      rw [ih (fun other hother => hdown other (List.mem_cons_of_mem _ hother)) h]
      simp

/-! ## Trees that keep directories -/

/-- Every directory is kept. -/
structure Keeps (t t' : FileTree) : Prop where
  workingDirectory : t'.workingDirectory = t.workingDirectory
  directory : ∀ k, t.entry? k = some .directory → t'.entry? k = some .directory

lemma Keeps.trans {t'' : FileTree} (h : t.Keeps t') (h' : t'.Keeps t'') : t.Keeps t'' :=
  ⟨h'.workingDirectory.trans h.workingDirectory, fun k hk => h'.directory k (h.directory k hk)⟩

lemma Keeps.put (h : t.entry? l ≠ some .directory) : t.Keeps (t.put l e) := by
  refine ⟨rfl, fun k hk => ?_⟩
  have hne : k ≠ l := by
    rintro rfl
    exact h hk
  rwa [entry_put_of_ne hne]

lemma Keeps.walk (h : t.Keeps t') {parts : List String} (hwalk : t.walk l parts = .ok k) :
    t'.walk l parts = .ok k := by
  induction parts generalizing l with
  | nil => exact hwalk
  | cons part parts ih =>
    cases hl : t.entry? l with
    | none => simp [FileTree.walk, hl] at hwalk
    | some e =>
      cases e with
      | file bytes => simp [FileTree.walk, hl] at hwalk
      | directory =>
        simp only [FileTree.walk, hl] at hwalk
        simp only [FileTree.walk, h.directory l hl]
        split_ifs at hwalk ⊢
        · exact ih hwalk
        · exact ih hwalk

lemma Keeps.locate (h : t.Keeps t') {p : Path} (hp : t.locate p = .ok l) : t'.locate p = .ok l := by
  unfold FileTree.locate at hp ⊢
  split at hp
  · cases hp
  · rename_i hzero
    rw [if_neg hzero, h.workingDirectory]
    exact h.walk hp

lemma Keeps.open (h : t.Keeps t') (hopen : t.Open l names) : t'.Open l names :=
  fun front hfront => h.directory _ (hopen front hfront)

/-! ## Paths to places that may not be there yet -/

lemma zero_notMem_intercalate {parts : List String} (h : ∀ part ∈ parts, '\x00' ∉ part.toList) :
    '\x00' ∉ ("/".intercalate parts).toList := by
  induction parts with
  | nil => simp
  | cons part parts ih =>
    have hpart := h part List.mem_cons_self
    have hrest := ih fun other hother => h other (List.mem_cons_of_mem _ hother)
    by_cases hne : parts = []
    · subst hne
      simpa using hpart
    · rw [String.intercalate_cons_of_ne_nil hne]
      simp only [String.toList_append, List.mem_append, not_or]
      exact ⟨⟨hpart, by decide⟩, hrest⟩

lemma zero_notMem_text {p : Path} (h : ∀ part ∈ p.parts, '\x00' ∉ part.toList) : '\x00' ∉ p.text.toList := by
  have hparts := zero_notMem_intercalate h
  unfold Path.text
  split
  · decide
  · exact hparts
  · rw [String.toList_append, List.mem_append, not_or]
    exact ⟨by decide, hparts⟩
  · rw [String.toList_append, List.mem_append, not_or]
    exact ⟨by decide, hparts⟩

/-- The first parts of the path lead to the directory `l`; from there it goes down by `names`. -/
structure Leads (t : FileTree) (p : Path) (l : Location) (names : List String) : Prop where
  start : ∃ front, p.parts = front ++ names ∧
    t.walk (if p.anchor = .here then t.workingDirectory else []) front = .ok l
  directory : t.entry? l = some .directory
  steps : ∀ name ∈ names, IsStep name
  zero : ∀ part ∈ p.parts, '\x00' ∉ part.toList

namespace Leads

variable {p : Path}

lemma locate (h : t.Leads p l names) : t.locate p = t.walk l names := by
  obtain ⟨front, hparts, hfront⟩ := h.start
  have htext := zero_notMem_text h.zero
  rw [FileTree.locate, if_neg (by simpa using htext), hparts, walk_append, hfront]
  rfl

lemma locate_open (h : t.Leads p l names) (hopen : t.Open l names) : t.locate p = .ok (l ++ names) :=
  h.locate.trans (walk_open h.steps hopen)

lemma locate_snoc (h : t.Leads p l (names ++ [name])) (hopen : t.Open l names) :
    t.locate p = .ok (l ++ (names ++ [name])) :=
  h.locate.trans (walk_snoc_of_open h.steps hopen)

lemma parent (h : t.Leads p l (names ++ [name])) : t.Leads p.parent l names := by
  obtain ⟨front, hparts, hfront⟩ := h.start
  have hparent : p.parent.parts = front ++ names := by
    rw [Path.parent, hparts, ← List.append_assoc, List.dropLast_concat]
  refine ⟨⟨front, hparent, hfront⟩, h.directory, fun other hother => h.steps other (List.mem_append_left _ hother), ?_⟩
  exact fun part hpart => h.zero part (List.dropLast_subset _ hpart)

lemma down (h : t.Leads p l names) {more : List String} (hmore : ∀ name ∈ more, IsStep name ∧ '\x00' ∉ name.toList) :
    t.Leads { p with parts := p.parts ++ more } l (names ++ more) := by
  obtain ⟨front, hparts, hfront⟩ := h.start
  refine ⟨⟨front, ?_, hfront⟩, h.directory, fun name hname => ?_, fun part hpart => ?_⟩
  · rw [hparts, List.append_assoc]
  · exact (List.mem_append.1 hname).elim (h.steps name) fun hin => (hmore name hin).1
  · exact (List.mem_append.1 hpart).elim (h.zero part) fun hin => (hmore part hin).2

lemma keeps (h : t.Leads p l names) (hkeeps : t.Keeps t') : t'.Leads p l names := by
  obtain ⟨front, hparts, hfront⟩ := h.start
  refine ⟨⟨front, hparts, ?_⟩, hkeeps.directory l h.directory, h.steps, h.zero⟩
  rw [hkeeps.workingDirectory]
  exact hkeeps.walk hfront

end Leads

/-! ## Making directories -/

/-- The directories on the way down by the given names are there, and nothing else has changed. -/
structure Made (t t' : FileTree) (l : Location) (names : List String) : Prop where
  workingDirectory : t'.workingDirectory = t.workingDirectory
  isOpen : t'.Open l names
  others : ∀ k, (∀ front, front <+: names → k ≠ l ++ front) → t'.entry? k = t.entry? k

lemma Made.refl (h : t.Open l names) : t.Made t l names :=
  ⟨rfl, h, fun _ _ => rfl⟩

lemma Made.keeps (h : t.Made t' l names) : t.Keeps t' := by
  refine ⟨h.workingDirectory, fun k hk => ?_⟩
  by_cases hway : ∃ front, front <+: names ∧ k = l ++ front
  · obtain ⟨front, hfront, rfl⟩ := hway
    exact h.isOpen front hfront
  · rw [h.others k fun front hfront heq => hway ⟨front, hfront, heq⟩]
    exact hk

variable {p : Path}

lemma isDirectory_iff (hp : t.locate p = .ok l) : t.isDirectory p = true ↔ t.entry? l = some .directory := by
  simp only [isDirectory, find?, hp]
  cases t.entry? l with
  | none => simp
  | some e => cases e <;> simp

lemma makeDirectory_eq (hp : t.locate p = .ok l) : t.makeDirectory p =
    if (t.entry? l).isSome then .error .alreadyExists else .ok (t.put l .directory) := by
  cases hl : t.entry? l with
  | none =>
    simp only [makeDirectory, hp, bind, Except.bind, hl]
    rfl
  | some e =>
    simp only [makeDirectory, hp, bind, Except.bind, hl]
    rfl

lemma makeDirectory_ne_notFound (hp : t.locate p = .ok l) : t.makeDirectory p ≠ .error .notFound := by
  rw [makeDirectory_eq hp]
  split_ifs <;> simp

lemma ensureDirectory_of_directory (hp : t.locate p = .ok l) (hl : t.entry? l = some .directory) :
    ensureDirectory p t = .ok () t := by
  have hmake : t.makeDirectory p = .error .alreadyExists := by simp [makeDirectory_eq hp, hl]
  have hthere : t.isDirectory p = true := (isDirectory_iff hp).2 hl
  simp [ensureDirectory, hmake, hthere]

lemma ensureDirectory_of_none (hp : t.locate p = .ok l) (hl : t.entry? l = none) :
    ensureDirectory p t = .ok () (t.put l .directory) := by
  have hmake : t.makeDirectory p = .ok (t.put l .directory) := by simp [makeDirectory_eq hp, hl]
  simp [ensureDirectory, hmake]

/-- The last directory of a way is made below the others. -/
lemma ensureDirectory_made (h : t.Leads p l (names ++ [name])) (hopen : t.Open l names)
    (hfree : ∀ bytes, t.entry? (l ++ (names ++ [name])) ≠ some (.file bytes)) :
    ∃ t', ensureDirectory p t = .ok () t' ∧ t.Made t' l (names ++ [name]) := by
  have hp := h.locate_snoc hopen
  cases hl : t.entry? (l ++ (names ++ [name])) with
  | some e =>
    cases e with
    | file bytes => exact absurd hl (hfree bytes)
    | directory => exact ⟨t, ensureDirectory_of_directory hp hl, .refl (open_snoc.2 ⟨hopen, hl⟩)⟩
  | none =>
    refine ⟨_, ensureDirectory_of_none hp hl, rfl, fun front hfront => ?_, fun k hk => ?_⟩
    · rcases List.prefix_concat_iff.1 hfront with rfl | hfront
      · exact entry_put_self (by simp)
      · have hnew : t.entry? (l ++ (names ++ [name])) ≠ some .directory := by simp [hl]
        exact (Keeps.put hnew).open hopen front hfront
    · exact entry_put_of_ne (hk _ List.prefix_rfl)

lemma ensureDirectories_succ {depth : Nat} (h : t.makeDirectory p ≠ .error .notFound) :
    ensureDirectories p (depth + 1) t = ensureDirectory p t := by
  cases hmake : t.makeDirectory p with
  | ok t' => simp only [ensureDirectories, bind, EStateM.bind, get_eq, hmake]
  | error e =>
    cases e with
    | notFound => exact absurd hmake h
    | alreadyExists | notDirectory | isDirectory | nameTooLong | zeroCharacter =>
      simp only [ensureDirectories, bind, EStateM.bind, get_eq, hmake]

lemma ensureDirectories_succ_notFound {depth : Nat} (h : t.makeDirectory p = .error .notFound)
    (hparent : ensureDirectories p.parent depth t = .ok () t') :
    ensureDirectories p (depth + 1) t = ensureDirectory p t' := by
  simp only [ensureDirectories, bind, EStateM.bind, get_eq, h, hparent]

/-- Making a directory with those on the way to it succeeds if no file stands in the way. -/
theorem ensureDirectories_made {depth : Nat} (h : t.Leads p l names) (hdepth : names.length ≤ depth)
    (hclear : t.Clear l names) : ∃ t', ensureDirectories p depth t = .ok () t' ∧ t.Made t' l names := by
  induction names using List.reverseRecOn generalizing p depth with
  | nil =>
    have hopen : t.Open l [] := open_nil.2 h.directory
    have hp := h.locate_open hopen
    have hdirectory : t.entry? (l ++ []) = some .directory := hopen [] List.prefix_rfl
    have hthere := ensureDirectory_of_directory hp hdirectory
    refine ⟨t, ?_, .refl hopen⟩
    cases depth with
    | zero => exact hthere
    | succ depth =>
      rw [ensureDirectories_succ (makeDirectory_ne_notFound hp), hthere]
  | append_singleton names name ih =>
    rw [List.length_append, List.length_singleton] at hdepth
    obtain ⟨depth, rfl⟩ : ∃ d, depth = d + 1 := ⟨depth - 1, by omega⟩
    obtain ⟨hclear, hfree⟩ := clear_snoc.1 hclear
    have hsteps : ∀ other ∈ names, IsStep other := fun other hother => h.steps other (List.mem_append_left _ hother)
    rcases open_or_notFound hsteps hclear name with hopen | hmissing
    · have hp := h.locate_snoc hopen
      obtain ⟨t', hmade⟩ := ensureDirectory_made h hopen hfree
      rw [ensureDirectories_succ (makeDirectory_ne_notFound hp)]
      exact ⟨t', hmade⟩
    · -- The directories before the last one are made first; none of them is the last one.
      have hmake : t.makeDirectory p = .error .notFound := by
        simp [makeDirectory, h.locate, hmissing, bind, Except.bind]
      obtain ⟨t₁, hparent, hmade⟩ := ih h.parent (Nat.le_of_succ_le_succ hdepth) hclear
      have hfree₁ : ∀ bytes, t₁.entry? (l ++ (names ++ [name])) ≠ some (.file bytes) := by
        intro bytes
        rw [hmade.others _ fun front hfront heq => ?_]
        · exact hfree bytes
        · have hlength := hfront.length_le
          rw [← List.append_cancel_left heq, List.length_append, List.length_singleton] at hlength
          omega
      obtain ⟨t', hlast, hmade'⟩ := ensureDirectory_made (h.keeps hmade.keeps) hmade.isOpen hfree₁
      refine ⟨t', (ensureDirectories_succ_notFound hmake hparent).trans hlast, ?_, hmade'.isOpen, fun k hk => ?_⟩
      · exact hmade'.workingDirectory.trans hmade.workingDirectory
      · rw [hmade'.others k hk]
        exact hmade.others k fun front hfront => hk front (hfront.trans (List.prefix_append _ _))

/-! ## Reading files -/

lemma read_eq_ok {bytes : ByteArray} : t.read p = .ok bytes ↔ ∃ l, t.locate p = .ok l ∧ t.entry? l = some (.file bytes) := by
  cases hp : t.locate p with
  | error e =>
    simp only [FileTree.read, hp, bind, Except.bind]
    simp
  | ok l =>
    simp only [FileTree.read, hp, bind, Except.bind]
    cases he : t.entry? l with
    | none => simp [he, throw, throwThe, MonadExceptOf.throw]
    | some e => cases e <;> simp [he, throw, throwThe, MonadExceptOf.throw, pure, Except.pure]

/-! ## What stands below a directory -/

lemma mem_go {seen : List Location} {entries : List (Location × Entry)} :
    (l, e) ∈ current.go seen entries ↔ l ∉ seen ∧ entries.lookup l = some e := by
  induction entries generalizing seen with
  | nil => simp [current.go]
  | cons first entries ih =>
    obtain ⟨k, e'⟩ := first
    by_cases hkl : l = k
    · subst hkl
      by_cases hseen : l ∈ seen
      · simp [current.go, hseen, ih]
      · simp [current.go, hseen, ih, eq_comm]
    · have hbeq : (l == k) = false := by simpa using hkl
      by_cases hseen : k ∈ seen
      · simp [current.go, hseen, ih, List.lookup_cons, hbeq]
      · simp [current.go, hseen, ih, List.lookup_cons, hbeq, hkl]

lemma nodup_go (seen : List Location) (entries : List (Location × Entry)) :
    ((current.go seen entries).map (·.1)).Nodup := by
  induction entries generalizing seen with
  | nil => simp [current.go]
  | cons first entries ih =>
    obtain ⟨k, e⟩ := first
    by_cases hseen : k ∈ seen
    · simpa [current.go, hseen] using ih seen
    · simp only [current.go, hseen, if_false, List.map_cons, List.nodup_cons]
      refine ⟨fun hin => ?_, ih _⟩
      obtain ⟨⟨_, e'⟩, hmem, rfl⟩ := List.mem_map.1 hin
      exact (mem_go.1 hmem).1 List.mem_cons_self

/-- The way to a location below another one, with what stands there. -/
def inside (l : Location) (entry : Location × Entry) : Option (List String × Entry) :=
  if l.isPrefixOf entry.1 && entry.1.length ≠ l.length then some (entry.1.drop l.length, entry.2) else none

lemma inside_eq_some {entry : Location × Entry} {found : List String × Entry} :
    inside l entry = some found ↔ found.1 ≠ [] ∧ entry = (l ++ found.1, found.2) := by
  obtain ⟨k, e⟩ := entry
  obtain ⟨names, e'⟩ := found
  simp only [inside, Option.ite_none_right_eq_some, Bool.and_eq_true, List.isPrefixOf_iff_prefix, decide_eq_true_eq,
    Option.some.injEq, Prod.mk.injEq]
  constructor
  · rintro ⟨⟨⟨names', rfl⟩, hlength⟩, hdrop, rfl⟩
    rw [List.drop_left] at hdrop
    subst hdrop
    refine ⟨fun hnil => hlength ?_, rfl, rfl⟩
    simp [hnil]
  · rintro ⟨hne, rfl, rfl⟩
    refine ⟨⟨List.prefix_append _ _, ?_⟩, List.drop_left, rfl⟩
    simpa using hne

lemma below_perm (hp : t.locate p = .ok l) (hl : t.entry? l = some .directory) :
    (t.below p).Perm (t.current.filterMap (inside l)) := by
  have hthere : t.isDirectory p = true := (isDirectory_iff hp).2 hl
  simp only [below, hp, hthere, if_true]
  exact List.mergeSort_perm _ _

theorem mem_below (hp : t.locate p = .ok l) (hl : t.entry? l = some .directory) :
    (names, e) ∈ t.below p ↔ names ≠ [] ∧ t.entry? (l ++ names) = some e := by
  rw [(below_perm hp hl).mem_iff, List.mem_filterMap]
  simp only [inside_eq_some]
  constructor
  · rintro ⟨_, hmem, hne, rfl⟩
    have hlookup := (mem_go.1 hmem).2
    exact ⟨hne, (entry_eq_lookup (by simp [hne])).trans hlookup⟩
  · rintro ⟨hne, hentry⟩
    refine ⟨(l ++ names, e), mem_go.2 ⟨List.not_mem_nil, ?_⟩, hne, rfl⟩
    exact (entry_eq_lookup (by simp [hne])).symm.trans hentry

lemma exists_of_mem_below {found : List String × Entry} (h : found ∈ t.below p) :
    ∃ l, t.locate p = .ok l ∧ t.entry? l = some .directory := by
  unfold below at h
  split at h
  · cases h
  · rename_i l hp
    split_ifs at h with hthere
    · exact ⟨l, hp, (isDirectory_iff hp).1 hthere⟩
    · cases h

lemma nodup_below (t : FileTree) (p : Path) : (t.below p).Nodup := by
  by_cases hnil : t.below p = []
  · simp [hnil]
  · obtain ⟨found, hfound⟩ := List.exists_mem_of_ne_nil _ hnil
    obtain ⟨l, hp, hl⟩ := exists_of_mem_below hfound
    rw [(below_perm hp hl).nodup_iff]
    refine List.Nodup.filterMap (fun first second found hfirst hsecond => ?_) (.of_map _ (nodup_go [] t.entries))
    rw [(inside_eq_some.1 hfirst).2, (inside_eq_some.1 hsecond).2]

/-- The contents of a file. -/
def fileOf : List String × Entry → Option (List String × ByteArray)
  | (names, .file bytes) => some (names, bytes)
  | (_, .directory) => none

/-- The files below the directory that a path leads to, with the names on the way there. -/
def filesBelow (t : FileTree) (p : Path) : List (List String × ByteArray) :=
  (t.below p).filterMap fileOf

lemma fileOf_eq_some {found : List String × Entry} {names : List String} {bytes : ByteArray} :
    fileOf found = some (names, bytes) ↔ found = (names, .file bytes) := by
  obtain ⟨names', e⟩ := found
  cases e <;> simp [fileOf]

lemma mem_filesBelow {p : Path} {bytes : ByteArray} :
    (names, bytes) ∈ t.filesBelow p ↔ (names, .file bytes) ∈ t.below p := by
  simp [filesBelow, List.mem_filterMap, fileOf_eq_some]

lemma nodup_filesBelow (t : FileTree) (p : Path) : (t.filesBelow p).Nodup := by
  refine List.Nodup.filterMap (fun first second found hfirst hsecond => ?_) (nodup_below t p)
  rw [fileOf_eq_some.1 hfirst, fileOf_eq_some.1 hsecond]

end FileTree

end Typings.Files
