import Mathlib.Data.List.TakeWhile
import Typings.Text.Split

/-!
# Parts of composed texts

Cutting undoes joining: lines that were written one after the other come back as they were, and so do words with white
space between them and a text with white space around it.
-/

namespace Typings.Text

/-! ## White space -/

/-- The code points of white space. -/
def blankCodes : List Nat :=
  [9, 10, 11, 12, 13, 28, 29, 30, 31, 32, 0x85, 0xa0, 0x1680, 0x2000, 0x2001, 0x2002, 0x2003, 0x2004, 0x2005, 0x2006,
   0x2007, 0x2008, 0x2009, 0x200a, 0x2028, 0x2029, 0x202f, 0x205f, 0x3000]

lemma mem_blankCodes {c : Char} (h : isBlank c = true) : c.toNat ∈ blankCodes := by
  simp only [isBlank, Bool.or_eq_true, Bool.and_eq_true, decide_eq_true_eq, beq_iff_eq] at h
  simp only [blankCodes, List.mem_cons, List.not_mem_nil, or_false]
  omega

/-- White space is neither part of a word nor of an identifier. -/
lemma not_blank {c : Char} (h : isWordChar c = true ∨ isIdentifierPart c = true) : isBlank c = false := by
  by_contra hblank
  have hcodes : ∀ n ∈ blankCodes, isWordChar (Char.ofNat n) = false ∧ isIdentifierPart (Char.ofNat n) = false := by
    decide +kernel
  have hc := hcodes c.toNat (mem_blankCodes (by simpa using hblank))
  rw [Char.ofNat_toNat] at hc
  simp [hc] at h

lemma isBlank_space : isBlank ' ' = true := by decide

lemma isBlank_of_isLineBreak {c : Char} (h : isLineBreak c = true) : isBlank c = true := by
  simp only [isLineBreak, isBlank, Bool.or_eq_true, Bool.and_eq_true, decide_eq_true_eq, beq_iff_eq] at h ⊢
  omega

/-- A text of one line. -/
def isSingleLine (cs : List Char) : Bool :=
  cs.all fun c => !isLineBreak c

@[simp] lemma isSingleLine_append (cs ds : List Char) : isSingleLine (cs ++ ds) = (isSingleLine cs && isSingleLine ds) :=
  List.all_append

@[simp] lemma isSingleLine_cons (c : Char) (cs : List Char) :
    isSingleLine (c :: cs) = (!isLineBreak c && isSingleLine cs) :=
  rfl

/-- A text without white space that is not empty. -/
structure IsSolid (cs : List Char) : Prop where
  ne_nil : cs ≠ []
  solid : ∀ c ∈ cs, isBlank c = false

instance (cs : List Char) : Decidable (IsSolid cs) :=
  decidable_of_iff (cs ≠ [] ∧ cs.all (fun c => !isBlank c) = true)
    ⟨fun h => ⟨h.1, by simpa using h.2⟩, fun h => ⟨h.ne_nil, by simpa using h.solid⟩⟩

lemma IsSolid.isSingleLine {cs : List Char} (h : IsSolid cs) : isSingleLine cs = true := by
  refine List.all_eq_true.2 fun c hc => ?_
  rw [Bool.not_eq_true']
  by_contra hbreak
  have := h.solid c hc
  simp [isBlank_of_isLineBreak (by simpa using hbreak)] at this

/-! ## Starts of texts -/

lemma eq_append_of_afterStart? {part cs rest : List Char} (h : afterStart? part cs = some rest) : cs = part ++ rest := by
  fun_induction afterStart? part cs with
  | case1 cs => exact Option.some.inj h
  | case2 => cases h
  | case3 p ps cs ih => rw [List.cons_append, ih h]
  | case4 => cases h

lemma afterStart?_append (part rest : List Char) : afterStart? part (part ++ rest) = some rest := by
  induction part with
  | nil => rfl
  | cons c part ih => rw [List.cons_append, afterStart?, if_pos rfl, ih]

lemma occursIn_append (before part rest : List Char) : occursIn part (before ++ part ++ rest) = true := by
  induction before with
  | nil =>
    cases part with
    | nil => cases rest <;> simp [occursIn, afterStart?]
    | cons p part =>
      have hstart := afterStart?_append (p :: part) rest
      simp only [List.cons_append] at hstart
      simp [occursIn, hstart]
  | cons b before ih =>
    simp only [List.append_assoc] at ih
    simp [occursIn, ih]

/-! ## Lines -/

lemma lines_append_break {line rest : List Char} (h : isSingleLine line = true) :
    lines (line ++ '\n' :: rest) = line :: lines rest := by
  induction line with
  | nil =>
    rw [List.nil_append, lines]
    · rfl
    · rintro rest' heq
      cases heq
  | cons c line ih =>
    simp only [isSingleLine_cons, Bool.and_eq_true, Bool.not_eq_true'] at h
    have hreturn : c ≠ '\r' := by
      rintro rfl
      exact absurd h.1 (by decide)
    rw [List.cons_append, lines]
    · simp [h.1, ih h.2]
    · rintro rest' heq
      exact absurd heq hreturn

/-- Lines that were written one after the other. -/
lemma lines_flatMap {ls : List (List Char)} (h : ∀ line ∈ ls, isSingleLine line = true) :
    lines (ls.flatMap (· ++ ['\n'])) = ls := by
  induction ls with
  | nil => rfl
  | cons line ls ih =>
    rw [List.flatMap_cons, List.append_assoc, List.singleton_append, lines_append_break (h line List.mem_cons_self),
      ih fun other hother => h other (List.mem_cons_of_mem _ hother)]

/-! ## Words -/

@[simp] lemma words_nil : words [] = [] := by
  simp [words, List.splitOnP_nil]

/-- White space belongs to no word. -/
lemma words_append_blank {c : Char} (hc : isBlank c = true) (cs ds : List Char) :
    words (cs ++ c :: ds) = words cs ++ words ds := by
  rw [words, List.splitOnP_append_cons cs ds hc, List.filter_append, words, words]

lemma IsSolid.words {cs : List Char} (h : IsSolid cs) : words cs = [cs] := by
  rw [Text.words, List.splitOnP_eq_singleton h.solid]
  simp [h.ne_nil]

/-- Texts without white space that were written with a space after each. -/
lemma words_flatMap {ts : List (List Char)} (h : ∀ t ∈ ts, ∀ c ∈ t, isBlank c = false) (rest : List Char) :
    words (ts.flatMap (· ++ [' ']) ++ rest) = ts.filter (· ≠ []) ++ words rest := by
  induction ts with
  | nil => rfl
  | cons t ts ih =>
    obtain ⟨ht, hts⟩ := List.forall_mem_cons.1 h
    rw [List.flatMap_cons, List.append_assoc, List.append_assoc, List.singleton_append, words_append_blank isBlank_space,
      ih hts]
    by_cases hne : t = []
    · subst hne
      simp
    · simp [IsSolid.words ⟨hne, ht⟩, hne]

/-! ## Trimming -/

lemma dropWhile_of_head {p : Char → Bool} {cs : List Char} (h : ∀ c ∈ cs.head?, p c = false) : cs.dropWhile p = cs := by
  cases cs with
  | nil => rfl
  | cons c cs => exact List.dropWhile_cons_of_neg (by simp [h c rfl])

/-- What starts or ends a text is the start or end of one of its two parts. -/
lemma forall_head_append {P : Char → Prop} {cs ds : List Char} (hcs : ∀ c ∈ cs.head?, P c) (hds : ∀ c ∈ ds.head?, P c) :
    ∀ c ∈ (cs ++ ds).head?, P c := by
  intro c hc
  rw [List.head?_append, Option.mem_def, Option.or_eq_some_iff] at hc
  exact hc.elim (hcs c) fun hc => hds c hc.2

lemma forall_last_append {P : Char → Prop} {cs ds : List Char} (hcs : ∀ c ∈ cs.getLast?, P c)
    (hds : ∀ c ∈ ds.getLast?, P c) : ∀ c ∈ (cs ++ ds).getLast?, P c := by
  intro c hc
  rw [List.getLast?_append, Option.mem_def, Option.or_eq_some_iff] at hc
  exact hc.elim (hds c) fun hc => hcs c hc.2

/-- What comes before the first character without a property, and what starts with it. -/
lemma takeWhile_dropWhile_append {p : Char → Bool} {cs rest : List Char} (hcs : ∀ c ∈ cs, p c = true)
    (hrest : ∀ c ∈ rest.head?, p c = false) : (cs ++ rest).takeWhile p = cs ∧ (cs ++ rest).dropWhile p = rest := by
  have hnone : rest.takeWhile p = [] := by
    cases rest with
    | nil => rfl
    | cons c rest => exact List.takeWhile_cons_of_neg (by simp [hrest c rfl])
  rw [List.takeWhile_append_of_pos hcs, List.dropWhile_append_of_pos hcs, hnone, dropWhile_of_head hrest, List.append_nil]
  exact ⟨rfl, rfl⟩

lemma trimEnd_append {cs pad : List Char} (hlast : ∀ c ∈ cs.getLast?, isBlank c = false)
    (hpad : ∀ c ∈ pad, isBlank c = true) : trimEnd (cs ++ pad) = cs := by
  rw [trimEnd, List.reverse_append, List.dropWhile_append_of_pos (by simpa using hpad),
    dropWhile_of_head (by simpa [List.head?_reverse] using hlast), List.reverse_reverse]

/-- White space around a text is taken off. -/
lemma trim_append {lead cs pad : List Char} (hne : cs ≠ []) (hhead : ∀ c ∈ cs.head?, isBlank c = false)
    (hlast : ∀ c ∈ cs.getLast?, isBlank c = false) (hlead : ∀ c ∈ lead, isBlank c = true)
    (hpad : ∀ c ∈ pad, isBlank c = true) : trim (lead ++ (cs ++ pad)) = cs := by
  have hhead' : ∀ c ∈ (cs ++ pad).head?, isBlank c = false := by
    rwa [List.head?_append, Option.or_of_isSome (by simpa using hne)]
  rw [trim, List.dropWhile_append_of_pos hlead, dropWhile_of_head hhead', trimEnd_append hlast hpad]

lemma IsSolid.head_append {cs : List Char} (h : IsSolid cs) (ds : List Char) :
    ∀ c ∈ (cs ++ ds).head?, isBlank c = false := by
  rw [List.head?_append, Option.or_of_isSome (by simpa using h.ne_nil)]
  exact fun c hc => h.solid c (List.mem_of_mem_head? hc)

/-- A word up to the space behind it. -/
lemma IsSolid.first_word {word : List Char} (h : IsSolid word) (rest : List Char) :
    (word ++ ' ' :: rest).takeWhile (fun c => !isBlank c) = word ∧
      (word ++ ' ' :: rest).dropWhile (fun c => !isBlank c) = ' ' :: rest :=
  takeWhile_dropWhile_append (by simpa using h.solid) (by simp; decide)

/-- What is taken off a text is white space. -/
lemma exists_trim (cs : List Char) :
    ∃ lead pad, cs = lead ++ trim cs ++ pad ∧ (∀ c ∈ lead, isBlank c = true) ∧ ∀ c ∈ pad, isBlank c = true := by
  refine ⟨cs.takeWhile isBlank, ((cs.dropWhile isBlank).reverse.takeWhile isBlank).reverse, ?_,
    fun c hc => List.mem_takeWhile_imp hc, fun c hc => List.mem_takeWhile_imp (List.mem_reverse.1 hc)⟩
  rw [trim, trimEnd, List.append_assoc, ← List.reverse_append, List.takeWhile_append_dropWhile, List.reverse_reverse,
    List.takeWhile_append_dropWhile]

end Typings.Text
