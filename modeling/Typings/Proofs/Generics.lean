import Mathlib.Data.List.Basic
import Typings.Javap.Listing

/-!
# Dropped type arguments

Of a text whose angle brackets match, what stands outside of them is kept, whatever follows the text and however many
brackets are open around it. Of the text before, only the number of open brackets counts, so that a group in brackets can be
taken out of any text.
-/

namespace Typings.Javap

/-- Whether the angle brackets of a text match after `depth` opening ones. -/
def isBalanced : Nat → List Char → Bool
  | depth, [] => depth = 0
  | depth, c :: cs =>
    if c = '<' then isBalanced (depth + 1) cs
    else if c = '>' then depth ≠ 0 && isBalanced (depth - 1) cs
    else isBalanced depth cs

/-- A text without angle brackets. -/
def IsPlain (cs : List Char) : Prop :=
  ∀ c ∈ cs, c ≠ '<' ∧ c ≠ '>'

instance (cs : List Char) : Decidable (IsPlain cs) :=
  decidable_of_iff (cs.all (fun c => c ≠ '<' ∧ c ≠ '>') = true) (by simp [IsPlain])

/-- The number of brackets that are open after a text of which `depth` are open before it. -/
def openAfter : Nat → List Char → Nat
  | depth, [] => depth
  | depth, c :: cs =>
    if c = '<' then openAfter (depth + 1) cs
    else if c = '>' then openAfter (depth - 1) cs
    else openAfter depth cs

/-- Of the text before, only the number of open brackets counts. -/
lemma dropGenerics_append_openAfter (depth : Nat) (cs rest : List Char) :
    dropGenerics depth (cs ++ rest) = dropGenerics depth cs ++ dropGenerics (openAfter depth cs) rest := by
  fun_induction openAfter depth cs with
  | case1 depth => rfl
  | case2 depth cs ih => simpa [dropGenerics] using ih
  | case3 depth cs _ ih => simpa [dropGenerics] using ih
  | case4 depth c cs hopen hclose ih =>
    simp only [List.cons_append, dropGenerics, if_neg hopen, if_neg hclose, ih]
    split_ifs <;> rfl

lemma openAfter_of_isBalanced {depth : Nat} {cs : List Char} (h : isBalanced depth cs = true) (outer : Nat) :
    openAfter (depth + outer) cs = outer := by
  fun_induction isBalanced depth cs with
  | case1 depth =>
    obtain rfl : depth = 0 := of_decide_eq_true h
    exact Nat.zero_add outer
  | case2 depth cs ih => simpa [openAfter, Nat.add_right_comm] using ih h
  | case3 depth cs _ ih =>
    rw [Bool.and_eq_true, decide_eq_true_eq] at h
    have hdepth : depth - 1 + outer = depth + outer - 1 := by omega
    simpa [openAfter, hdepth] using ih h.2
  | case4 depth c cs hopen hclose ih => simpa [openAfter, hopen, hclose] using ih h

/-- A text in which brackets match is dropped on its own. -/
lemma dropGenerics_append {depth : Nat} {cs : List Char} (h : isBalanced depth cs = true) (outer : Nat)
    (rest : List Char) :
    dropGenerics (depth + outer) (cs ++ rest) = dropGenerics (depth + outer) cs ++ dropGenerics outer rest := by
  rw [dropGenerics_append_openAfter, openAfter_of_isBalanced h]

/-- Inside of brackets nothing is kept. -/
lemma dropGenerics_inside {depth : Nat} {cs : List Char} (h : isBalanced depth cs = true) (outer : Nat) :
    dropGenerics (depth + outer + 1) cs = [] := by
  fun_induction isBalanced depth cs with
  | case1 => rfl
  | case2 depth cs ih => simpa [dropGenerics, Nat.add_right_comm] using ih h
  | case3 depth cs _ ih =>
    rw [Bool.and_eq_true, decide_eq_true_eq] at h
    have hdepth : depth - 1 + outer + 1 = depth + outer := by omega
    simpa [dropGenerics, hdepth] using ih h.2
  | case4 depth c cs hopen hclose ih => simpa [dropGenerics, hopen, hclose] using ih h

lemma isBalanced_append {depth outer : Nat} {cs rest : List Char} (h : isBalanced depth cs = true)
    (hrest : isBalanced outer rest = true) : isBalanced (depth + outer) (cs ++ rest) = true := by
  fun_induction isBalanced depth cs with
  | case1 depth =>
    obtain rfl : depth = 0 := of_decide_eq_true h
    rwa [Nat.zero_add]
  | case2 depth cs ih => simpa [isBalanced, Nat.add_right_comm] using ih h
  | case3 depth cs _ ih =>
    rw [Bool.and_eq_true, decide_eq_true_eq] at h
    have hdepth : depth - 1 + outer = depth + outer - 1 := by omega
    simp only [List.cons_append, isBalanced, Char.reduceEq, if_false, if_true, Bool.and_eq_true, decide_eq_true_eq]
    exact ⟨by omega, hdepth ▸ ih h.2⟩
  | case4 depth c cs hopen hclose ih => simpa [isBalanced, hopen, hclose] using ih h

namespace IsPlain

variable {cs ds : List Char}

lemma append (hcs : IsPlain cs) (hds : IsPlain ds) : IsPlain (cs ++ ds) :=
  fun c hc => (List.mem_append.1 hc).elim (hcs c) (hds c)

lemma isBalanced (h : IsPlain cs) : isBalanced 0 cs = true := by
  induction cs with
  | nil => rfl
  | cons c cs ih =>
    have hc := h c List.mem_cons_self
    simpa [Javap.isBalanced, hc] using ih fun d hd => h d (List.mem_cons_of_mem _ hd)

lemma stripGenerics (h : IsPlain cs) : stripGenerics cs = cs := by
  induction cs with
  | nil => rfl
  | cons c cs ih =>
    have hc := h c List.mem_cons_self
    have hcs := ih fun d hd => h d (List.mem_cons_of_mem _ hd)
    rw [Javap.stripGenerics] at hcs ⊢
    simp [dropGenerics, hc, hcs]

end IsPlain

section Strip

variable {cs rest : List Char}

lemma stripGenerics_append (h : isBalanced 0 cs = true) (rest : List Char) :
    stripGenerics (cs ++ rest) = stripGenerics cs ++ stripGenerics rest :=
  dropGenerics_append h 0 rest

/-- Type arguments leave nothing behind, however many brackets are open around them. -/
lemma dropGenerics_arguments (h : isBalanced 0 cs = true) (depth : Nat) (rest : List Char) :
    dropGenerics depth ('<' :: cs ++ '>' :: rest) = dropGenerics depth rest := by
  have hopen : dropGenerics depth ('<' :: cs ++ '>' :: rest) = dropGenerics (depth + 1) (cs ++ '>' :: rest) := by
    simp [dropGenerics]
  have hinside : dropGenerics (depth + 1) cs = [] := by simpa using dropGenerics_inside h depth
  have hafter : openAfter (depth + 1) cs = depth + 1 := by simpa using openAfter_of_isBalanced h (depth + 1)
  have hclose : dropGenerics (depth + 1) ('>' :: rest) = dropGenerics depth rest := by simp [dropGenerics]
  rw [hopen, dropGenerics_append_openAfter, hinside, hafter, hclose, List.nil_append]

lemma stripGenerics_arguments (h : isBalanced 0 cs = true) (rest : List Char) :
    stripGenerics ('<' :: cs ++ '>' :: rest) = stripGenerics rest :=
  dropGenerics_arguments h 0 rest

lemma isBalanced_arguments (h : isBalanced 0 cs = true) (hrest : isBalanced 0 rest = true) :
    isBalanced 0 ('<' :: cs ++ '>' :: rest) = true := by
  have hclose : isBalanced 1 ('>' :: rest) = true := by simpa [isBalanced] using hrest
  simpa [isBalanced] using isBalanced_append h hclose

/-- No bracket is kept. -/
lemma isPlain_dropGenerics (depth : Nat) (cs : List Char) : IsPlain (dropGenerics depth cs) := by
  fun_induction dropGenerics depth cs with
  | case1 => exact nofun
  | case2 depth cs ih => exact ih
  | case3 depth cs _ ih => exact ih
  | case4 c cs hopen hclose ih =>
    intro d hd
    rcases List.mem_cons.1 hd with rfl | hd
    · exact ⟨hopen, hclose⟩
    · exact ih d hd
  | case5 depth c cs _ _ _ ih => exact ih

/-- A group of matching brackets leaves nothing behind wherever it stands, also if the brackets around it do not match. What
is left of a text has no brackets, and a text without brackets is left as it is. -/
theorem stripGenerics_drops_group {group : List Char} (h : isBalanced 0 group = true) (before after : List Char) :
    stripGenerics (before ++ '<' :: group ++ '>' :: after) = stripGenerics (before ++ after) ∧
      (∀ cs, IsPlain (stripGenerics cs)) ∧ (∀ cs, stripGenerics (stripGenerics cs) = stripGenerics cs) ∧
      ∀ cs, IsPlain cs → stripGenerics cs = cs := by
  have hplain : ∀ cs, IsPlain (stripGenerics cs) := isPlain_dropGenerics 0
  refine ⟨?_, hplain, fun cs => (hplain cs).stripGenerics, fun cs hcs => hcs.stripGenerics⟩
  calc stripGenerics (before ++ '<' :: group ++ '>' :: after)
      = stripGenerics before ++ dropGenerics (openAfter 0 before) ('<' :: group ++ '>' :: after) := by
        rw [List.append_assoc, stripGenerics, stripGenerics, dropGenerics_append_openAfter]
    _ = stripGenerics before ++ dropGenerics (openAfter 0 before) after := by rw [dropGenerics_arguments h]
    _ = stripGenerics (before ++ after) := by
        rw [stripGenerics, stripGenerics, dropGenerics_append_openAfter]

/-- A group with groups in it, after a bracket that closes nothing and one that is not closed. -/
theorem stripGenerics_drops_group_unmatched :
    isBalanced 0 "K,A<B<C>,D>".toList = true ∧ IsPlain "m ad".toList ∧
      stripGenerics (">m a<b".toList ++ '<' :: "K,A<B<C>,D>".toList ++ '>' :: "c>d>".toList) = "m ad".toList ∧
      stripGenerics "m ad".toList = "m ad".toList := by
  have hgroup : isBalanced 0 "K,A<B<C>,D>".toList = true := by decide
  have hplain : IsPlain "m ad".toList := by decide
  have hleft : stripGenerics (">m a<b".toList ++ "c>d>".toList) = "m ad".toList := by decide
  obtain ⟨hdropped, -, -, hkept⟩ := stripGenerics_drops_group hgroup ">m a<b".toList "c>d>".toList
  exact ⟨hgroup, hplain, hdropped.trans hleft, hkept _ hplain⟩

end Strip

end Typings.Javap
