import Mathlib.Data.List.Basic
import Typings.Java.Modifiers

/-!
# Modifier words

A list of words stands for the modifiers that are named in it, in whatever order and however often: its mask is the sum of
their bits.
-/

namespace Typings.Java

/-- The words of the language that are modifiers of classes or members. -/
def modifierWords : List String :=
  ["public", "private", "protected", "static", "final", "synchronized", "volatile", "transient", "native", "abstract",
   "strictfp", "default", "sealed", "non-sealed"]

lemma Modifier.ofKeyword?_eq_some {word : String} {m : Modifier} : ofKeyword? word = some m ↔ m.keyword = word := by
  constructor
  · intro h
    simpa using List.find?_some h
  · rintro rfl
    cases m <;> decide

namespace Modifiers

/-- The modifiers with the given property. -/
def such (p : Modifier → Bool) : Modifiers :=
  ⟨(Modifier.all.filter p).foldr (fun m sum => m.bit + sum) 0⟩

/-- The modifiers that are named in a list of words. -/
def named (words : List String) : Modifiers :=
  such fun m => m.keyword ∈ words

lemma mask_such (p : Modifier → Bool) :
    (such p).mask = Modifier.all.foldr (fun m sum => m.bit * (p m).toInt + sum) 0 := by
  have hsum : ∀ ms : List Modifier, (ms.filter p).foldr (fun m sum => m.bit + sum) 0 =
      ms.foldr (fun m sum => m.bit * (p m).toInt + sum) 0 := by
    intro ms
    induction ms with
    | nil => rfl
    | cons m ms ih => cases h : p m <;> simp [h, ih]
  exact hsum _

lemma contains_such (p : Modifier → Bool) (m : Modifier) : (such p).contains m = p m := by
  -- Each bit of the sum is one of its digits.
  have hdigits : ∀ m ∈ Modifier.all, 0 ≤ (p m).toInt ∧ (p m).toInt ≤ 1 := fun m _ => by cases p m <;> decide
  have hone : p m = decide ((p m).toInt = 1) := by cases p m <;> rfl
  rw [hone, contains, mask_such]
  apply decide_eq_decide.2
  simp only [Modifier.all, List.forall_mem_cons, List.foldr_cons, List.foldr_nil, Modifier.bit] at hdigits ⊢
  cases m <;> dsimp only <;> omega

lemma insert_such (p : Modifier → Bool) (m : Modifier) : (such p).insert m = such fun n => p n || n = m := by
  by_cases hm : p m = true
  · have hsame : (fun n => p n || n = m) = p := by
      funext n
      by_cases hn : n = m <;> simp [hn, hm]
    rw [insert, contains_such, if_pos hm, hsame]
  · rw [insert, contains_such, if_neg hm]
    have hmask : (such p).mask + m.bit = (such fun n => p n || n = m).mask := by
      rw [mask_such, mask_such]
      simp only [Modifier.all, List.foldr_cons, List.foldr_nil, Modifier.bit]
      cases m <;> simp [hm] <;> omega
    rw [hmask]

/-- The mask of a list of words is the sum of the bits of the modifiers named in it. -/
theorem ofKeywords_eq_named (words : List String) : ofKeywords words = named words := by
  have hfold : ∀ (ms : List Modifier) (p : Modifier → Bool), ms.foldl insert (such p) = such fun n => p n || n ∈ ms := by
    intro ms
    induction ms with
    | nil => simp
    | cons m ms ih =>
      intro p
      rw [List.foldl_cons, insert_such, ih]
      simp [Bool.or_assoc]
  have hempty : empty = such fun _ => false := by decide
  rw [ofKeywords, ofList, hempty, hfold, named]
  congr 1
  funext m
  simp [List.mem_filterMap, Modifier.ofKeyword?_eq_some]

/-- Words without a bit do not count. -/
lemma named_append_of_noKeyword {words others : List String} (h : ∀ word ∈ others, Modifier.ofKeyword? word = none) :
    named (words ++ others) = named words := by
  have hnotMem : ∀ m : Modifier, m.keyword ∉ others := by
    intro m hmem
    have hnone := h _ hmem
    rw [Modifier.ofKeyword?_eq_some.2 rfl] at hnone
    cases hnone
  simp [named, hnotMem]

lemma insert_named {words : List String} {m : Modifier} (h : m.keyword ∈ words) : (named words).insert m = named words := by
  rw [insert, named, contains_such, if_pos (by simpa using h)]

end Modifiers

end Typings.Java
