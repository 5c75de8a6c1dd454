import Mathlib.Data.List.SplitBy
import Typings.Javap.Listing
import Typings.Proofs.TextParts

/-!
# Runs of word characters and clauses

A clause of a header starts with its word wherever that is a maximal run of word characters, and reaches up to the next
such run. What stands in a clause therefore holds no clause word as a run, and neither do the types in it.
-/

namespace Typings.Javap

open Text (isWordChar isBlank)

/-! ## Runs -/

/-- The word is a maximal run of word characters in the text. -/
def HasRun (word cs : List Char) : Prop :=
  ∃ before after, cs = before ++ word ++ after ∧ (∀ c ∈ before.getLast?, isWordChar c = false) ∧
    ∀ c ∈ after.head?, isWordChar c = false

/-- A text of word characters that is not empty. -/
structure IsWord (word : List Char) : Prop where
  ne_nil : word ≠ []
  chars : ∀ c ∈ word, isWordChar c = true

instance (word : List Char) : Decidable (IsWord word) :=
  decidable_of_iff (word ≠ [] ∧ word.all isWordChar = true)
    ⟨fun h => ⟨h.1, by simpa using h.2⟩, fun h => ⟨h.ne_nil, by simpa using h.chars⟩⟩

section Runs

variable {word cs ds : List Char}

lemma IsWord.head_append (h : IsWord word) (cs : List Char) : ∀ c ∈ (word ++ cs).head?, isWordChar c = true := by
  rw [List.head?_append, Option.or_of_isSome (by simpa using h.ne_nil)]
  exact fun c hc => h.chars c (List.mem_of_mem_head? hc)

lemma IsWord.wordRuns (h : IsWord word) : wordRuns word = [word] := by
  refine List.splitBy_of_isChain h.ne_nil (List.isChain_iff_forall_rel_of_append_cons_cons.2 fun a b as bs heq => ?_)
  simp [h.chars a (by simp [heq]), h.chars b (by simp [heq])]

/-- Where a word character meets another character, the text is cut. -/
lemma wordRuns_append (h : ∀ c ∈ cs.getLast?, ∀ d ∈ ds.head?, isWordChar c ≠ isWordChar d) :
    wordRuns (cs ++ ds) = wordRuns cs ++ wordRuns ds :=
  List.splitBy_append fun c hc d hd => by simpa using h c hc d hd

lemma IsWord.wordRuns_append (h : IsWord word) (hafter : ∀ c ∈ ds.head?, isWordChar c = false) :
    Javap.wordRuns (word ++ ds) = word :: Javap.wordRuns ds := by
  rw [Javap.wordRuns_append, h.wordRuns]
  · rfl
  · intro c hc d hd
    simp [h.chars c (List.mem_of_getLast? hc), hafter d hd]

lemma flatten_wordRuns (cs : List Char) : (wordRuns cs).flatten = cs :=
  List.flatten_splitBy _ cs

/-- Part of the runs of a text are the runs of what they make up. -/
lemma wordRuns_flatten {runs : List (List Char)} (h : runs <:+: wordRuns cs) : wordRuns runs.flatten = runs := by
  have hchain := List.isChain_getLast_head_splitBy (fun a b => isWordChar a == isWordChar b) cs
  refine List.splitBy_flatten (fun hnil => List.nil_notMem_splitBy _ cs (h.subset hnil)) (fun run hrun => ?_) ?_
  · exact List.isChain_of_mem_splitBy (h.subset hrun)
  · exact List.IsChain.infix hchain h

/-- Neighbouring runs are of different kinds. -/
lemma differ_of_wordRuns {runs more : List (List Char)} {a b : List Char} (h : wordRuns cs = runs ++ a :: b :: more) :
    ∀ c ∈ a.getLast?, ∀ d ∈ b.head?, isWordChar c ≠ isWordChar d := by
  intro c hc d hd
  have hchain := List.isChain_getLast_head_splitBy (fun a b => isWordChar a == isWordChar b) cs
  change (wordRuns cs).IsChain _ at hchain
  rw [h, List.isChain_append_cons_cons] at hchain
  obtain ⟨hane, hbne, hdiffer⟩ := hchain.2.1
  rw [List.getLast_of_mem_getLast? hc, List.head_of_mem_head? hd] at hdiffer
  simpa using hdiffer

theorem hasRun_iff_mem_wordRuns (hword : IsWord word) : HasRun word cs ↔ word ∈ wordRuns cs := by
  constructor
  · rintro ⟨before, after, rfl, hbefore, hafter⟩
    have hcut : wordRuns (before ++ (word ++ after)) = wordRuns before ++ wordRuns (word ++ after) := by
      apply wordRuns_append
      intro c hc d hd
      simp [hbefore c hc, hword.head_append after d hd]
    rw [List.append_assoc, hcut, hword.wordRuns_append hafter]
    exact List.mem_append_right _ List.mem_cons_self
  · intro hmem
    obtain ⟨runs, more, hruns⟩ := List.append_of_mem hmem
    refine ⟨runs.flatten, more.flatten, ?_, fun c hc => ?_, fun c hc => ?_⟩
    · rw [← flatten_wordRuns cs, hruns]
      simp
    · obtain rfl | ⟨runs, run, rfl⟩ := List.eq_nil_or_concat runs
      · cases hc
      · have hne : run ≠ [] := List.ne_nil_of_mem_splitBy (l := cs) (hruns ▸ by simp : run ∈ wordRuns cs)
        rw [List.concat_eq_append, List.flatten_append, List.flatten_singleton, List.getLast?_append_of_ne_nil _ hne] at hc
        rw [List.concat_eq_append, List.append_assoc, List.singleton_append] at hruns
        have hdiffer := differ_of_wordRuns hruns c hc (word.head hword.ne_nil) (List.head_mem_head? hword.ne_nil)
        simpa [hword.chars _ (List.head_mem hword.ne_nil)] using hdiffer
    · cases more with
      | nil => cases hc
      | cons run more =>
        have hne : run ≠ [] := List.ne_nil_of_mem_splitBy (l := cs) (hruns ▸ by simp : run ∈ wordRuns cs)
        rw [List.flatten_cons, List.head?_append, Option.or_of_isSome (by simpa using hne)] at hc
        have hdiffer := differ_of_wordRuns hruns (word.getLast hword.ne_nil) (List.getLast_mem_getLast? hword.ne_nil) c hc
        simpa [hword.chars _ (List.getLast_mem hword.ne_nil)] using hdiffer.symm

lemma not_hasRun_nil (hword : IsWord word) : ¬HasRun word [] := by
  rintro ⟨before, after, heq, -, -⟩
  simp [hword.ne_nil] at heq

/-- A run stays one between other characters than word characters. -/
lemma HasRun.pad (h : HasRun word cs) (lead pad : List Char) (hlead : ∀ c ∈ lead.getLast?, isWordChar c = false)
    (hpad : ∀ c ∈ pad.head?, isWordChar c = false) : HasRun word (lead ++ cs ++ pad) := by
  obtain ⟨before, after, rfl, hbefore, hafter⟩ := h
  exact ⟨lead ++ before, after ++ pad, by simp, Text.forall_last_append hlead hbefore,
    Text.forall_head_append hafter hpad⟩

/-- Other characters than word characters separate the runs. -/
lemma hasRun_append_cons (hword : IsWord word) {c : Char} (hc : isWordChar c = false) (cs ds : List Char) :
    HasRun word (cs ++ c :: ds) ↔ HasRun word cs ∨ HasRun word ds := by
  have hnotMem : c ∉ word := fun hmem => by simp [hword.chars c hmem] at hc
  constructor
  · rintro ⟨before, after, heq, hbefore, hafter⟩
    obtain ⟨mid, hleft, hright⟩ | ⟨mid, hleft, hright⟩ := List.append_eq_append_iff.1 heq
    · cases mid with
      | nil => exact .inl ⟨before, [], by simpa using hleft.symm, hbefore, by simp⟩
      | cons d mid =>
        obtain ⟨rfl, rfl⟩ := List.cons.inj hright
        -- The run ends behind the character, hence it starts behind it.
        obtain ⟨start, -, hword'⟩ | ⟨start, hstart, hend⟩ := List.append_eq_append_iff.1 hleft
        · exact absurd (hword' ▸ by simp) hnotMem
        · cases start with
          | nil =>
            rw [List.nil_append] at hend
            exact absurd (hend ▸ List.mem_cons_self) hnotMem
          | cons e start =>
            obtain ⟨rfl, rfl⟩ := List.cons.inj hend
            refine .inr ⟨start, after, rfl, fun d hd => hbefore d ?_, hafter⟩
            rw [hstart, Option.mem_def, List.getLast?_append, List.getLast?_cons, hd]
            rfl
    · refine .inl ⟨before, mid, hleft, hbefore, fun d hd => hafter d ?_⟩
      rw [hright, Option.mem_def, List.head?_append, hd]
      rfl
  · rintro (h | h)
    · exact h.pad [] (c :: ds) (by simp) (by simpa using hc)
    · simpa using h.pad (cs ++ [c]) [] (by simpa using hc) (by simp)

end Runs

/-! ## Clauses -/

lemma isWord_clauseWord {word : String} (h : word ∈ clauseWords) : IsWord word.toList := by
  have hall : ∀ word ∈ clauseWords, IsWord word.toList := by decide +kernel
  exact hall word h

lemma isClauseWord_toList {word : String} : isClauseWord word.toList = true ↔ word ∈ clauseWords := by
  simp [isClauseWord]

/-- A text without clause words as runs. -/
def IsClear (cs : List Char) : Prop :=
  ∀ word ∈ clauseWords, ¬HasRun word.toList cs

lemma isClear_iff {cs : List Char} : IsClear cs ↔ ∀ run ∈ wordRuns cs, isClauseWord run = false := by
  constructor
  · intro h run hrun
    by_contra hclause
    have hmem : String.ofList run ∈ clauseWords := by simpa [isClauseWord] using hclause
    refine h _ hmem ((hasRun_iff_mem_wordRuns (isWord_clauseWord hmem)).2 ?_)
    rwa [String.toList_ofList]
  · intro h word hword hrun
    have hfalse := h _ ((hasRun_iff_mem_wordRuns (isWord_clauseWord hword)).1 hrun)
    simp [isClauseWord_toList.2 hword] at hfalse

lemma isClear_append_cons {c : Char} (hc : isWordChar c = false) {cs ds : List Char} :
    IsClear (cs ++ c :: ds) ↔ IsClear cs ∧ IsClear ds := by
  simp only [IsClear, ← forall_and]
  refine forall₂_congr fun word hword => ?_
  rw [hasRun_append_cons (isWord_clauseWord hword) hc, not_or]

lemma isClear_nil : IsClear [] :=
  fun _ hword => not_hasRun_nil (isWord_clauseWord hword)

/-- What is read for a clause: its word and the runs up to the next clause word. -/
lemma exists_of_mem_clauses {runs : List (List Char)} {clause : String × List Char} (h : clause ∈ clauses runs) :
    clause.1.toList ∈ runs ∧ ∃ value, value <:+: runs ∧ clause.2 = value.flatten ∧
      ∀ run ∈ value, isClauseWord run = false := by
  fun_induction clauses runs with
  | case1 => cases h
  | case2 run runs hclause ih =>
    rcases List.mem_cons.1 h with rfl | h
    · refine ⟨by simp, runs.takeWhile fun r => !isClauseWord r, ?_, rfl, fun run hrun => ?_⟩
      · exact (List.takeWhile_prefix _).isInfix.trans (List.suffix_cons _ _).isInfix
      · simpa using List.mem_takeWhile_imp hrun
    · obtain ⟨hword, value, hinfix, hvalue⟩ := ih h
      exact ⟨List.mem_cons_of_mem _ hword, value, hinfix.trans (List.suffix_cons _ _).isInfix, hvalue⟩
  | case3 run runs _ ih =>
    obtain ⟨hword, value, hinfix, hvalue⟩ := ih h
    exact ⟨List.mem_cons_of_mem _ hword, value, hinfix.trans (List.suffix_cons _ _).isInfix, hvalue⟩

/-- What stands in a clause has no clause words. -/
lemma isClear_of_mem_clauses {cs : List Char} {clause : String × List Char} (h : clause ∈ clauses (wordRuns cs)) :
    IsClear clause.2 := by
  obtain ⟨-, value, hinfix, hvalue, hclear⟩ := exists_of_mem_clauses h
  rw [isClear_iff, hvalue, wordRuns_flatten hinfix]
  exact hclear

lemma clauses_append_of_clear {runs : List (List Char)} (h : ∀ run ∈ runs, isClauseWord run = false)
    (more : List (List Char)) : clauses (runs ++ more) = clauses more := by
  induction runs with
  | nil => rfl
  | cons run runs ih =>
    rw [List.cons_append, clauses, h run List.mem_cons_self]
    exact ih fun other hother => h other (List.mem_cons_of_mem _ hother)

/-- The rest of a header, where it ends or goes on with a clause. -/
inductive IsClauseText : List Char → Prop
  | nil : IsClauseText []
  | clause {word : String} (hword : word ∈ clauseWords) (after : List Char) :
      IsClauseText (' ' :: (word.toList ++ ' ' :: after))

lemma isWordChar_blank : isWordChar ' ' = false := by decide

/-- A clause word behind another character than a word character starts a run. -/
lemma wordRuns_append_clauseWord {word : String} (hword : word ∈ clauseWords) {cs : List Char}
    (hcs : ∀ c ∈ cs.getLast?, isWordChar c = false) (after : List Char) :
    wordRuns (cs ++ (word.toList ++ after)) = wordRuns cs ++ wordRuns (word.toList ++ after) := by
  have hw := isWord_clauseWord hword
  apply wordRuns_append
  intro c hc d hd
  rw [hcs c hc, hw.head_append after d hd]
  decide

lemma clauses_cons_blank {word : String} (hword : word ∈ clauseWords) (after : List Char) :
    clauses (wordRuns (' ' :: (word.toList ++ after))) = clauses (wordRuns (word.toList ++ after)) := by
  have hblank : wordRuns [' '] = [[' ']] := rfl
  rw [← List.singleton_append, wordRuns_append_clauseWord hword (by simp [isWordChar_blank]), hblank]
  exact clauses_append_of_clear (by decide +kernel) _

/-- A clause ends where the next clause word starts a run. -/
lemma clauses_word {word : String} (hword : word ∈ clauseWords) {value rest : List Char} (hclear : IsClear (' ' :: value))
    (hnext : ∀ run ∈ (wordRuns rest).head?, isClauseWord run = true)
    (hcut : wordRuns (' ' :: value ++ rest) = wordRuns (' ' :: value) ++ wordRuns rest) :
    clauses (wordRuns (word.toList ++ (' ' :: value ++ rest))) = (word, ' ' :: value) :: clauses (wordRuns rest) := by
  have hruns := isClear_iff.1 hclear
  have hstop : (wordRuns rest).takeWhile (fun r => !isClauseWord r) = [] := by
    cases h : wordRuns rest with
    | nil => rfl
    | cons run runs => exact List.takeWhile_cons_of_neg (by simp [hnext run (by simp [h])])
  rw [(isWord_clauseWord hword).wordRuns_append (by simpa using isWordChar_blank), hcut, clauses,
    if_pos (isClauseWord_toList.2 hword), clauses_append_of_clear hruns,
    List.takeWhile_append_of_pos (by simpa using hruns), hstop, List.append_nil, flatten_wordRuns, String.ofList_toList]

/-- A clause without clause words in it is read as it is; the space before the next clause belongs to it. -/
lemma clauses_clause {word : String} (hword : word ∈ clauseWords) {value rest : List Char} (hvalue : IsClear value)
    (hrest : IsClauseText rest) :
    clauses (wordRuns (' ' :: (word.toList ++ ' ' :: (value ++ rest)))) =
      (word, ' ' :: value ++ rest.take 1) :: clauses (wordRuns rest) := by
  have hclear : IsClear (' ' :: value) := (isClear_append_cons isWordChar_blank).2 ⟨isClear_nil, hvalue⟩
  rw [clauses_cons_blank hword]
  cases hrest with
  | nil =>
    have hnil : wordRuns [] = [] := rfl
    have hend : ∀ run ∈ (wordRuns []).head?, isClauseWord run = true := by simp [hnil]
    simpa using clauses_word hword hclear hend (by simp [hnil])
  | @clause next hnext after =>
    have hclear' : IsClear (' ' :: value ++ [' ']) := (isClear_append_cons isWordChar_blank).2 ⟨hclear, isClear_nil⟩
    have hstart : ∀ run ∈ (wordRuns (next.toList ++ ' ' :: after)).head?, isClauseWord run = true := by
      rw [(isWord_clauseWord hnext).wordRuns_append (by simpa using isWordChar_blank)]
      simpa using isClauseWord_toList.2 hnext
    have hlast : ∀ c ∈ (' ' :: value ++ [' ']).getLast?, isWordChar c = false := by
      rw [List.getLast?_concat]
      simpa using isWordChar_blank
    have hcut := wordRuns_append_clauseWord hnext hlast (' ' :: after)
    rw [clauses_cons_blank hnext]
    simpa using clauses_word hword hclear' hstart hcut

end Typings.Javap
