import Typings.Proofs.ListedHeaders

/-!
# Recovered headers

The clauses of a header are found by their words. A clause that is read holds no clause word as a run, so a supertype with
such a run in its name is never found; a permitted class with such a run starts a clause that the header does not have.
-/

namespace Typings.Javap

open Text (isBlank isWordChar)

/-! ## Lists of types -/

@[simp] lemma typeList_nil : typeList [] = [] := by
  simp [typeList, Text.trim, Text.trimEnd]

/-- Types on both sides of a comma. -/
lemma typeList_append_comma (cs ds : List Char) : typeList (cs ++ ',' :: ds) = typeList cs ++ typeList ds := by
  rw [typeList, typeList, typeList, List.splitOn_append_cons_self cs ds, List.map_append, List.filter_append,
    List.map_append]

/-- A name with white space around it. -/
lemma typeList_name {name : String} (hname : isHeaderName name = true) {lead pad : List Char}
    (hlead : ∀ c ∈ lead, isBlank c = true) (hpad : ∀ c ∈ pad, isBlank c = true) :
    typeList (lead ++ (name.toList ++ pad)) = [name] := by
  obtain ⟨hne, hchars⟩ := isHeaderName_iff.1 hname
  have hblank : isBlank ',' ≠ true := by decide
  have hcomma : ',' ∉ lead ++ (name.toList ++ pad) := by
    simp only [List.mem_append, not_or]
    exact ⟨fun hc => hblank (hlead _ hc), fun hc => (hchars _ hc).2 List.mem_cons_self, fun hc => hblank (hpad _ hc)⟩
  have htrim := Text.trim_append hne (fun c hc => (hchars c (List.mem_of_mem_head? hc)).1)
    (fun c hc => (hchars c (List.mem_of_getLast? hc)).1) hlead hpad
  rw [typeList, List.splitOn_eq_singleton hcomma]
  simp [htrim, hne]

/-- Names with commas between them. -/
lemma typeList_commaSeparated (gap : Nat) {names : List String} (hnames : ∀ name ∈ names, isHeaderName name = true)
    (hne : names ≠ []) {lead pad : List Char} (hlead : ∀ c ∈ lead, isBlank c = true) (hpad : ∀ c ∈ pad, isBlank c = true) :
    typeList (lead ++ (commaSeparated gap (names.map String.toList) ++ pad)) = names := by
  induction names generalizing lead with
  | nil => exact absurd rfl hne
  | cons name names ih =>
    obtain ⟨hname, hnames⟩ := List.forall_mem_cons.1 hnames
    cases names with
    | nil => simpa [commaSeparated] using typeList_name hname hlead hpad
    | cons next names =>
      have hspaces : ∀ c ∈ List.replicate gap ' ', isBlank c = true := by
        intro c hc
        rw [List.eq_of_mem_replicate hc]
        decide
      have hfirst := typeList_name hname hlead (List.forall_mem_nil _)
      have hmore := ih hnames (List.cons_ne_nil _ _) hspaces
      calc typeList (lead ++ (commaSeparated gap ((name :: next :: names).map String.toList) ++ pad))
          = typeList (lead ++ (name.toList ++ []) ++
              ',' :: (List.replicate gap ' ' ++ (commaSeparated gap ((next :: names).map String.toList) ++ pad))) := by
            simp [commaSeparated_cons_cons]
        _ = name :: next :: names := by
            rw [typeList_append_comma, hfirst, hmore]
            rfl

section Runs

variable {word : List Char}

lemma hasRun_spaces (hword : IsWord word) (n : Nat) (cs : List Char) :
    HasRun word (List.replicate n ' ' ++ cs) ↔ HasRun word cs := by
  induction n with
  | zero => rfl
  | succ n ih =>
    have hspace := hasRun_append_cons hword isWordChar_blank [] (List.replicate n ' ' ++ cs)
    rwa [or_iff_right (not_hasRun_nil hword), ih] at hspace

/-- Runs of a list of types are those of the types. -/
lemma hasRun_commaSeparated (hword : IsWord word) (gap : Nat) (types : List (List Char)) :
    HasRun word (commaSeparated gap types) ↔ ∃ t ∈ types, HasRun word t := by
  induction types with
  | nil => simp [commaSeparated, not_hasRun_nil hword]
  | cons t types ih =>
    cases types with
    | nil => simp [commaSeparated]
    | cons u us =>
      rw [commaSeparated_cons_cons, List.cons_append, hasRun_append_cons hword (by decide), hasRun_spaces hword, ih]
      simp

/-- A type in a list has only runs of the list. -/
lemma HasRun.of_mem_typeList (hword : IsWord word) {cs : List Char} {name : String} (hmem : name ∈ typeList cs)
    (h : HasRun word name.toList) : HasRun word cs := by
  obtain ⟨part, hpart, rfl⟩ : ∃ part ∈ cs.splitOn ',', String.ofList (Text.trim part) = name := by
    simp only [typeList, List.mem_map, List.mem_filter] at hmem
    obtain ⟨_, ⟨⟨part, hpart, rfl⟩, -⟩, rfl⟩ := hmem
    exact ⟨part, hpart, rfl⟩
  obtain ⟨lead, pad, hpadded, hlead, hpad⟩ := Text.exists_trim part
  rw [String.toList_ofList] at h
  have hother : ∀ {c}, isBlank c = true → isWordChar c = false := by
    intro c hc
    by_contra hchar
    simp [Text.not_blank (.inl (by simpa using hchar))] at hc
  have hrun := h.pad lead pad (fun c hc => hother (hlead c (List.mem_of_getLast? hc)))
    (fun c hc => hother (hpad c (List.mem_of_mem_head? hc)))
  rw [← hpadded] at hrun
  have hlist : commaSeparated 0 (cs.splitOn ',') = cs := List.intercalate_splitOn ','
  rw [← hlist]
  exact (hasRun_commaSeparated hword 0 _).2 ⟨part, hpart, hrun⟩

end Runs

/-! ## Clauses of a header -/

section Clauses

variable {word : String} {names : List String}

lemma hasRun_clauseWord {other : String} (hword : word ∈ clauseWords) (hother : other ∈ clauseWords) :
    HasRun word.toList other.toList ↔ word = other := by
  rw [hasRun_iff_mem_wordRuns (isWord_clauseWord hword), (isWord_clauseWord hother).wordRuns, List.mem_singleton,
    String.toList_inj]

/-- A clause is read for each of its words that is a run. -/
lemma HasRun.of_mem_clauses {cs : List Char} (hword : word ∈ clauseWords) {clause : String × List Char}
    (h : clause ∈ clauses (wordRuns cs)) (hkey : clause.1 = word) : HasRun word.toList cs := by
  rw [hasRun_iff_mem_wordRuns (isWord_clauseWord hword), ← hkey]
  exact (exists_of_mem_clauses h).1

lemma HasRun.of_clauseText (hword : word ∈ clauseWords) {other : String} (hother : other ∈ clauseWords) (hne : word ≠ other)
    {gap : Nat} {types : List (List Char)} (h : HasRun word.toList (clauseText other gap types)) : ∃ t ∈ types, HasRun word.toList t := by
  have hw := isWord_clauseWord hword
  cases types with
  | nil => exact absurd h (not_hasRun_nil hw)
  | cons t ts =>
    rw [clauseText, ← List.nil_append (' ' :: _), hasRun_append_cons hw isWordChar_blank,
      hasRun_append_cons hw isWordChar_blank, hasRun_clauseWord hword hother, hasRun_commaSeparated hw] at h
    rcases h with h | h | h
    · exact absurd h (not_hasRun_nil hw)
    · exact absurd h hne
    · exact h

lemma isClauseText_append (gap : Nat) (hword : word ∈ clauseWords) (types : List (List Char)) {rest : List Char}
    (hrest : IsClauseText rest) : IsClauseText (clauseText word gap types ++ rest) := by
  cases types with
  | nil => exact hrest
  | cons t ts => simpa [clauseText] using IsClauseText.clause hword (commaSeparated gap (t :: ts) ++ rest)

/-- A clause of names without clause words comes back with its names. -/
lemma exists_clauses_clauseText (gap : Nat) (hword : word ∈ clauseWords) (hnames : ∀ name ∈ names, isHeaderName name = true)
    (hclear : ∀ name ∈ names, IsClear name.toList) {rest : List Char} (hrest : IsClauseText rest) :
    ∃ read, clauses (wordRuns (clauseText word gap (names.map String.toList) ++ rest)) = read ++ clauses (wordRuns rest) ∧
      (∀ clause ∈ read, clause.1 = word) ∧ clauseTypes word read = names := by
  cases names with
  | nil => exact ⟨[], rfl, by simp, by simp [clauseTypes]⟩
  | cons name names =>
    have hvalue : IsClear (commaSeparated gap ((name :: names).map String.toList)) := by
      intro other hother hrun
      obtain ⟨t, ht, hrun⟩ := (hasRun_commaSeparated (isWord_clauseWord hother) gap _).1 hrun
      obtain ⟨name, hname, rfl⟩ := List.mem_map.1 ht
      exact hclear name hname other hother hrun
    have hpad : ∀ c ∈ rest.take 1, isBlank c = true := by
      cases hrest with
      | nil => simp
      | clause => simp; decide
    refine ⟨[(word, ' ' :: commaSeparated gap ((name :: names).map String.toList) ++ rest.take 1)], ?_, by simp, ?_⟩
    · simpa [clauseText] using clauses_clause hword hvalue hrest
    · have hspace : ∀ c ∈ [' '], isBlank c = true := List.forall_mem_singleton.2 Text.isBlank_space
      have htypes := typeList_commaSeparated gap hnames (List.cons_ne_nil _ _) hspace hpad
      simpa [clauseTypes] using htypes

lemma clauseTypes_append_left {cs ds : List (String × List Char)} (h : ∀ clause ∈ ds, clause.1 ≠ word) :
    clauseTypes word (cs ++ ds) = clauseTypes word cs := by
  have hnone : ds.reverse.lookup word = none := List.lookup_eq_none_iff.2 fun clause hclause =>
    bne_iff_ne.2 (h clause (List.mem_reverse.1 hclause)).symm
  rw [clauseTypes, clauseTypes, List.reverse_append, List.lookup_append, hnone, Option.none_or]

lemma clauseTypes_append_right {cs ds : List (String × List Char)} (h : ∀ clause ∈ cs, clause.1 ≠ word) :
    clauseTypes word (cs ++ ds) = clauseTypes word ds := by
  have hnone : cs.reverse.lookup word = none := List.lookup_eq_none_iff.2 fun clause hclause =>
    bne_iff_ne.2 (h clause (List.mem_reverse.1 hclause)).symm
  rw [clauseTypes, clauseTypes, List.reverse_append, List.lookup_append, hnone, Option.or_none]

/-- Permitted names start only the clauses whose words are runs in them. -/
lemma ne_of_mem_clauses_permits (gap : Nat) {permitted : List String} {word : String}
    (hword : word ∈ ["extends", "implements"]) (hpermitted : ∀ name ∈ permitted, ¬HasRun word.toList name.toList) :
    ∀ clause ∈ clauses (wordRuns (clauseText "permits" gap (permitted.map String.toList))), clause.1 ≠ word := by
  have hall : ∀ word ∈ ["extends", "implements"], word ∈ clauseWords ∧ word ≠ "permits" := by decide
  intro clause hclause hkey
  obtain ⟨hmem, hne⟩ := hall word hword
  obtain ⟨t, ht, hrun⟩ := (HasRun.of_mem_clauses hmem hclause hkey).of_clauseText hmem (by decide) hne
  obtain ⟨name, hname, rfl⟩ := List.mem_map.1 ht
  exact hpermitted name hname hrun

/-- The types in the clauses for supertypes, where no permitted class starts another such clause. -/
lemma clauseTypes_of_clear (gap : Nat) {extended implemented permitted : List String}
    (hextended : ∀ name ∈ extended, isHeaderName name = true ∧ IsClear name.toList)
    (himplemented : ∀ name ∈ implemented, isHeaderName name = true ∧ IsClear name.toList)
    (hpermitted : ∀ name ∈ permitted, ∀ word ∈ ["extends", "implements"], ¬HasRun word.toList name.toList) :
    let cs := clauses (wordRuns (clauseText "extends" gap (extended.map String.toList) ++
      (clauseText "implements" gap (implemented.map String.toList) ++ clauseText "permits" gap (permitted.map String.toList))))
    clauseTypes "extends" cs = extended ∧ clauseTypes "implements" cs = implemented := by
  intro cs
  have hextendsWord : "extends" ∈ clauseWords := by decide
  have himplementsWord : "implements" ∈ clauseWords := by decide
  have hpermitsWord : "permits" ∈ clauseWords := by decide
  have hpermits : IsClauseText (clauseText "permits" gap (permitted.map String.toList)) := by
    simpa using isClauseText_append gap hpermitsWord (permitted.map String.toList) .nil
  have himplements := isClauseText_append gap himplementsWord (implemented.map String.toList) hpermits
  obtain ⟨readI, hreadI, hkeysI, htypesI⟩ := exists_clauses_clauseText gap himplementsWord
    (fun name hname => (himplemented name hname).1) (fun name hname => (himplemented name hname).2) hpermits
  obtain ⟨readE, hreadE, hkeysE, htypesE⟩ := exists_clauses_clauseText gap hextendsWord
    (fun name hname => (hextended name hname).1) (fun name hname => (hextended name hname).2) himplements
  have hkeysP : ∀ word ∈ ["extends", "implements"],
      ∀ clause ∈ clauses (wordRuns (clauseText "permits" gap (permitted.map String.toList))), clause.1 ≠ word :=
    fun word hword => ne_of_mem_clauses_permits gap hword fun name hname => hpermitted name hname word hword
  -- The clauses stand one after the other, and the last one of a kind counts.
  have hcs : cs = readE ++ (readI ++ clauses (wordRuns (clauseText "permits" gap (permitted.map String.toList)))) := by
    rw [← hreadI, ← hreadE]
  rw [hcs]
  constructor
  · have hothers : ∀ clause ∈ readI ++ clauses (wordRuns (clauseText "permits" gap (permitted.map String.toList))),
        clause.1 ≠ "extends" := by
      intro clause hclause
      rcases List.mem_append.1 hclause with hclause | hclause
      · rw [hkeysI clause hclause]
        decide
      · exact hkeysP _ (by decide) clause hclause
    rw [clauseTypes_append_left hothers, htypesE]
  · have hfirst : ∀ clause ∈ readE, clause.1 ≠ "implements" := by
      intro clause hclause
      rw [hkeysE clause hclause]
      decide
    rw [clauseTypes_append_right hfirst, clauseTypes_append_left (hkeysP _ (by decide)), htypesI]

end Clauses

/-- A supertype that is read has no clause word in its name. -/
lemma isClear_of_mem_heritage {rest : List Char} {name : String}
    (h : name ∈ (heritage rest).1.toList ++ (heritage rest).2) : IsClear name.toList := by
  have htypes : ∀ word, ∀ name ∈ clauseTypes word (clauses (wordRuns (stripGenerics rest))), IsClear name.toList := by
    intro word name hname other hother hrun
    rw [clauseTypes] at hname
    cases hlookup : (clauses (wordRuns (stripGenerics rest))).reverse.lookup word with
    | none => simp [hlookup] at hname
    | some value =>
      rw [hlookup] at hname
      obtain ⟨_, _, hsplit, -⟩ := List.lookup_eq_some_iff.1 hlookup
      have hmem : (word, value) ∈ clauses (wordRuns (stripGenerics rest)) := by
        rw [← List.mem_reverse, hsplit]
        simp
      exact isClear_of_mem_clauses hmem other hother (hrun.of_mem_typeList (isWord_clauseWord hother) hname)
  rw [heritage, List.mem_append, List.mem_append] at h
  rcases h with h | h | h
  · exact htypes _ _ (List.mem_of_mem_head? (by simpa using h))
  · exact htypes _ _ h
  · exact htypes _ _ (List.mem_of_mem_tail h)

namespace Header

variable (h : Header)

/-- The name, the kind and the modifiers are always read; what can go wrong are the supertypes. -/
lemma recovered_iff_heritage : h.Recovered ↔
    if h.isInterface then (heritage h.rest).1.toList ++ (heritage h.rest).2 = h.extended.map NamedType.name
    else (heritage h.rest).1 = (h.extended.map NamedType.name).head? ∧
      (heritage h.rest).2 = h.implemented.map NamedType.name := by
  rw [h.recovered_iff]
  cases hkind : h.isInterface <;>
    simp [Listing.ofHeader, listing, kind, hkind, Java.Modifiers.ofKeywords_eq_named]

/-- The supertypes of a header without clause words in their names. -/
lemma heritage_rest (hclear : ∀ t ∈ h.extended ++ h.implemented, IsClear t.name.toList)
    (hpermitted : ∀ t ∈ h.permitted, ∀ word ∈ ["extends", "implements"], ¬HasRun word.toList t.name.toList) :
    heritage h.rest = ((h.extended.map NamedType.name).head?,
      h.implemented.map NamedType.name ++ (h.extended.map NamedType.name).tail) := by
  have hnames : ∀ ts ⊆ h.extended ++ h.implemented, ∀ name ∈ ts.map NamedType.name,
      isHeaderName name = true ∧ IsClear name.toList := by
    intro ts hts name hname
    obtain ⟨t, ht, rfl⟩ := List.mem_map.1 hname
    exact ⟨t.isName, hclear t (hts ht)⟩
  obtain ⟨hextended, himplemented⟩ := clauseTypes_of_clear h.gap (hnames _ (List.subset_append_left _ _))
    (hnames _ (List.subset_append_right _ _)) (List.forall_mem_map.2 hpermitted)
  rw [heritage, h.isPiece_rest.2, hextended, himplemented]

/-- Where all is well, the supertypes are among those that are read. -/
lemma supertypes_subset_heritage (hrecovered : h.Recovered) :
    (h.extended ++ h.implemented).map NamedType.name ⊆ (heritage h.rest).1.toList ++ (heritage h.rest).2 := by
  rw [h.recovered_iff_heritage] at hrecovered
  cases hkind : h.isInterface with
  | true =>
    rw [if_pos hkind] at hrecovered
    rw [hrecovered, h.implements_none hkind, List.append_nil]
    exact List.Subset.refl _
  | false =>
    rw [if_neg (by simp [hkind])] at hrecovered
    have hone : (h.extended.map NamedType.name).head?.toList = h.extended.map NamedType.name := by
      match h.extended, h.extends_one hkind with
      | [], _ => rfl
      | [_], _ => rfl
    rw [hrecovered.1, hrecovered.2, hone, List.map_append]
    exact List.Subset.refl _

/-! ## Which headers are recovered -/

/-- A header is recovered only if no extended or implemented name has a clause word as a run; this is also enough if no
permitted name starts a clause for supertypes. -/
theorem recovered_iff_isClear :
    (h.Recovered → ∀ t ∈ h.extended ++ h.implemented, IsClear t.name.toList) ∧
      ((∀ t ∈ h.permitted, ∀ word ∈ ["extends", "implements"], ¬HasRun word.toList t.name.toList) →
        (h.Recovered ↔ ∀ t ∈ h.extended ++ h.implemented, IsClear t.name.toList)) := by
  have honly : h.Recovered → ∀ t ∈ h.extended ++ h.implemented, IsClear t.name.toList := fun hrecovered t ht =>
    isClear_of_mem_heritage (h.supertypes_subset_heritage hrecovered (List.mem_map_of_mem ht))
  refine ⟨honly, fun hpermitted => ⟨honly, fun hclear => ?_⟩⟩
  rw [h.recovered_iff_heritage, h.heritage_rest hclear hpermitted]
  cases hkind : h.isInterface with
  | true =>
    rw [if_pos rfl, h.implements_none hkind]
    cases h.extended <;> rfl
  | false =>
    have htail : (h.extended.map NamedType.name).tail = [] := by
      match h.extended, h.extends_one hkind with
      | [], _ => rfl
      | [_], _ => rfl
    rw [if_neg Bool.false_ne_true, htail, List.append_nil]
    exact ⟨rfl, rfl⟩

end Header

/-- A name without type arguments. -/
def NamedType.plain (name : String) (h : isHeaderName name = true) : NamedType where
  parts := [(name, none)]
  isName := by simpa [String.join] using h
  isArguments := by simp

/-- The header of a class that is sealed and generic:
`public abstract sealed class p.Child<T extends p.Base<? super T>> extends p.Outer<T>.Inner<p.Pair<T, T[]>> implements
p.First<T>, p.Second permits p.Leaf`. -/
def childHeader : Header where
  words := ["public", "abstract", "sealed"]
  isInterface := false
  name := "p.Child"
  parameters? := some "T extends p.Base<? super T>"
  extended := [⟨[("p.Outer", some "T"), (".Inner", some "p.Pair<T, T[]>")], by decide +kernel, by decide +kernel⟩]
  implemented := [⟨[("p.First", some "T")], by decide +kernel, by decide +kernel⟩, .plain "p.Second" (by decide +kernel)]
  permitted := [.plain "p.Leaf" (by decide +kernel)]
  areModifiers := by decide
  isName := by decide +kernel
  areParameters := by decide +kernel
  extends_one _ := Nat.le_refl 1
  implements_none := nofun

theorem childHeader_recovered : childHeader.Recovered := by
  refine (childHeader.recovered_iff_isClear.2 ?_).2 ?_
  · intro t ht word hword
    have hmem : word ∈ clauseWords := by
      have hall : ∀ word ∈ ["extends", "implements"], word ∈ clauseWords := by decide
      exact hall word hword
    rw [List.mem_singleton.1 ht, hasRun_iff_mem_wordRuns (isWord_clauseWord hmem)]
    revert word
    decide +kernel
  · simp only [isClear_iff]
    decide +kernel

/-- The header `public sealed class p.A extends p.B permits p.X$extends`. -/
def permittingHeader : Header where
  words := ["public", "sealed"]
  isInterface := false
  name := "p.A"
  extended := [.plain "p.B" (by decide +kernel)]
  permitted := [.plain "p.X$extends" (by decide +kernel)]
  areModifiers := by decide
  isName := by decide +kernel
  areParameters := isArguments_of_none
  extends_one _ := Nat.le_refl 1
  implements_none := nofun

/-- A permitted name can start a clause that takes the place of the one before it. -/
theorem permittingHeader_lost :
    ¬(permittingHeader.Recovered ↔
      ∀ t ∈ permittingHeader.extended ++ permittingHeader.implemented, IsClear t.name.toList) := by
  have hclear : ∀ t ∈ permittingHeader.extended ++ permittingHeader.implemented, IsClear t.name.toList := by
    intro t ht
    rw [List.mem_singleton.1 ht, isClear_iff]
    decide +kernel
  have hlost : ¬permittingHeader.Recovered := by
    rw [Header.recovered_iff]
    decide +kernel
  exact fun hiff => hlost (hiff.2 hclear)

end Typings.Javap
