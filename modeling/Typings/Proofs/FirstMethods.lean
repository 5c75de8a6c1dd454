import Mathlib.Data.List.Nodup
import Typings.Java.Inheritance

/-!
# The first methods of their keys

Taking the first method of each key from a list in which that was done before for parts of it comes to the same as
taking it from the whole list at once. Two lists of methods are therefore exchangeable, as far as inheritance goes, when
they have the same first methods.
-/

namespace Typings.Java

variable {seen inner outer : List (String × List String)} {m : Method} {ms ns ms' ns' : List Method}

lemma firstOfKey_cons_of_mem (hm : m.key ∈ seen) : firstOfKey seen (m :: ms) = firstOfKey seen ms := by
  rw [firstOfKey, if_pos hm]

lemma firstOfKey_cons_of_notMem (hm : m.key ∉ seen) :
    firstOfKey seen (m :: ms) = m :: firstOfKey (m.key :: seen) ms := by
  rw [firstOfKey, if_neg hm]

/-- Only the keys of the methods at hand matter. -/
lemma firstOfKey_congr (hkeys : ∀ m ∈ ms, m.key ∈ inner ↔ m.key ∈ outer) : firstOfKey inner ms = firstOfKey outer ms := by
  induction ms generalizing inner outer with
  | nil => rfl
  | cons m ms ih =>
    have hm := hkeys m List.mem_cons_self
    have hms : ∀ n ∈ ms, n.key ∈ inner ↔ n.key ∈ outer := fun n hn => hkeys n (List.mem_cons_of_mem _ hn)
    by_cases hin : m.key ∈ inner
    · rw [firstOfKey_cons_of_mem hin, firstOfKey_cons_of_mem (hm.1 hin), ih hms]
    · rw [firstOfKey_cons_of_notMem hin, firstOfKey_cons_of_notMem (fun hout => hin (hm.2 hout)), ih]
      intro n hn
      simp only [List.mem_cons, hms n hn]

lemma firstOfKey_append : firstOfKey seen (ms ++ ns) = firstOfKey seen ms ++ firstOfKey (ms.map Method.key ++ seen) ns := by
  induction ms generalizing seen with
  | nil => rfl
  | cons m ms ih =>
    by_cases hm : m.key ∈ seen
    · rw [List.cons_append, firstOfKey_cons_of_mem hm, firstOfKey_cons_of_mem hm, ih]
      refine congrArg _ (firstOfKey_congr fun n _ => ?_)
      simp only [List.map_cons, List.cons_append, List.mem_cons, List.mem_append]
      constructor
      · exact .inr
      · rintro (hn | hn)
        · exact .inr (hn ▸ hm)
        · exact hn
    · rw [List.cons_append, firstOfKey_cons_of_notMem hm, firstOfKey_cons_of_notMem hm, ih, List.cons_append]
      refine congrArg _ (congrArg _ (firstOfKey_congr fun n _ => ?_))
      simp only [List.map_cons, List.cons_append, List.mem_cons, List.mem_append]
      exact or_left_comm

/-- What was left out before would be left out now. -/
lemma firstOfKey_firstOfKey (hsub : inner ⊆ outer) : firstOfKey outer (firstOfKey inner ms) = firstOfKey outer ms := by
  induction ms generalizing inner outer with
  | nil => rfl
  | cons m ms ih =>
    by_cases hin : m.key ∈ inner
    · rw [firstOfKey_cons_of_mem hin, firstOfKey_cons_of_mem (hsub hin), ih hsub]
    · rw [firstOfKey_cons_of_notMem hin]
      by_cases hout : m.key ∈ outer
      · rw [firstOfKey_cons_of_mem hout, firstOfKey_cons_of_mem hout, ih (List.cons_subset.2 ⟨hout, hsub⟩)]
      · rw [firstOfKey_cons_of_notMem hout, firstOfKey_cons_of_notMem hout, ih (List.cons_subset_cons _ hsub)]

/-- Among the items whose key is not in `seen`, the first one is kept, and its key is seen from then on. -/
lemma eraseDupsBy_unseen_cons {α κ : Type} [BEq κ] [LawfulBEq κ] (key : α → κ) (seen : List κ) (a : α) (as : List α) :
    ((a :: as).filter (key · ∉ seen)).eraseDupsBy (fun a b => key a == key b) =
      if key a ∈ seen then (as.filter (key · ∉ seen)).eraseDupsBy (fun a b => key a == key b)
      else a :: (as.filter (key · ∉ key a :: seen)).eraseDupsBy (fun a b => key a == key b) := by
  split
  · next ha => rw [List.filter_cons_of_neg (by simpa using ha)]
  · next ha =>
    rw [List.filter_cons_of_pos (by simpa using ha), List.eraseDupsBy_cons, List.filter_filter]
    refine congrArg _ (congrArg _ (List.filter_congr fun b _ => ?_))
    rw [← Bool.decide_and, decide_eq_decide, beq_eq_false_iff_ne, List.mem_cons, not_or]

/-- Among the methods whose key is not in `seen`, the later ones of a key that an earlier one has are erased. -/
theorem firstOfKey_eq_eraseDupsBy :
    firstOfKey seen ms = (ms.filter (·.key ∉ seen)).eraseDupsBy (fun a b => a.key == b.key) := by
  induction ms generalizing seen with
  | nil => rfl
  | cons m ms ih => rw [eraseDupsBy_unseen_cons Method.key, firstOfKey, ← ih, ← ih]

/-- A method is taken if nothing before it has its key. -/
theorem mem_firstOfKey_iff : m ∈ firstOfKey seen ms ↔
    m.key ∉ seen ∧ ∃ before after, ms = before ++ m :: after ∧ ∀ b ∈ before, b.key ≠ m.key := by
  induction ms generalizing seen with
  | nil => simp [firstOfKey]
  | cons n ms ih =>
    constructor
    · intro hm
      by_cases hn : n.key ∈ seen
      · rw [firstOfKey_cons_of_mem hn, ih] at hm
        obtain ⟨hseen, before, after, rfl, hbefore⟩ := hm
        refine ⟨hseen, n :: before, after, rfl, List.forall_mem_cons.2 ⟨fun heq => hseen (heq ▸ hn), hbefore⟩⟩
      · rw [firstOfKey_cons_of_notMem hn, List.mem_cons, ih] at hm
        rcases hm with rfl | ⟨hseen, before, after, rfl, hbefore⟩
        · exact ⟨hn, [], ms, rfl, by simp⟩
        · obtain ⟨hne, hseen⟩ := not_or.1 (mt List.mem_cons.2 hseen)
          exact ⟨hseen, n :: before, after, rfl, List.forall_mem_cons.2 ⟨fun heq => hne heq.symm, hbefore⟩⟩
    · rintro ⟨hseen, before, after, hsplit, hbefore⟩
      cases before with
      | nil =>
        cases hsplit
        rw [firstOfKey_cons_of_notMem hseen]
        exact List.mem_cons_self
      | cons b before =>
        cases hsplit
        obtain ⟨hne, hbefore⟩ := List.forall_mem_cons.1 hbefore
        by_cases hn : n.key ∈ seen
        · rw [firstOfKey_cons_of_mem hn]
          exact ih.2 ⟨hseen, before, after, rfl, hbefore⟩
        · rw [firstOfKey_cons_of_notMem hn]
          refine List.mem_cons_of_mem _ (ih.2 ⟨?_, before, after, rfl, hbefore⟩)
          simp only [List.mem_cons, not_or]
          exact ⟨fun heq => hne heq.symm, hseen⟩

lemma mem_of_mem_firstOfKey (hm : m ∈ firstOfKey seen ms) : m ∈ ms := by
  obtain ⟨-, before, after, rfl, -⟩ := mem_firstOfKey_iff.1 hm
  exact List.mem_append_right _ List.mem_cons_self

lemma nodup_keys_firstOfKey : ((firstOfKey seen ms).map Method.key).Nodup := by
  induction ms generalizing seen with
  | nil => exact List.nodup_nil
  | cons m ms ih =>
    by_cases hm : m.key ∈ seen
    · rw [firstOfKey_cons_of_mem hm]
      exact ih
    · rw [firstOfKey_cons_of_notMem hm, List.map_cons, List.nodup_cons]
      refine ⟨fun hin => ?_, ih⟩
      obtain ⟨n, hn, hkey⟩ := List.mem_map.1 hin
      exact (mem_firstOfKey_iff.1 hn).1 (hkey ▸ List.mem_cons_self)

/-- No key is lost. -/
lemma mem_keys_firstOfKey {k : String × List String} :
    k ∈ (firstOfKey seen ms).map Method.key ↔ k ∈ ms.map Method.key ∧ k ∉ seen := by
  induction ms generalizing seen with
  | nil => simp [firstOfKey]
  | cons m ms ih =>
    by_cases hm : m.key ∈ seen
    · rw [firstOfKey_cons_of_mem hm, ih, List.map_cons, List.mem_cons]
      constructor
      · exact fun ⟨hk, hseen⟩ => ⟨.inr hk, hseen⟩
      · exact fun ⟨hk, hseen⟩ => ⟨hk.resolve_left fun heq => hseen (heq ▸ hm), hseen⟩
    · rw [firstOfKey_cons_of_notMem hm, List.map_cons, List.mem_cons, ih, List.map_cons, List.mem_cons, List.mem_cons]
      by_cases hk : k = m.key
      · simp [hk, hm]
      · simp [hk]

/-! ## Lists with the same first methods -/

/-- Whatever keys come before them, the first methods of their keys are the same in both lists. -/
def SameFirsts (ms ns : List Method) : Prop :=
  ∀ seen, firstOfKey seen ms = firstOfKey seen ns

namespace SameFirsts

lemma mem_keys_iff (h : SameFirsts ms ns) {k : String × List String} :
    k ∈ ms.map Method.key ↔ k ∈ ns.map Method.key := by
  have hfirst : ∀ l : List Method, k ∈ l.map Method.key ↔ k ∈ (firstOfKey [] l).map Method.key := by
    simp [mem_keys_firstOfKey]
  rw [hfirst ms, hfirst ns, h []]

lemma append (h : SameFirsts ms ns) (h' : SameFirsts ms' ns') : SameFirsts (ms ++ ms') (ns ++ ns') := by
  intro seen
  have hrest : firstOfKey (ms.map Method.key ++ seen) ms' = firstOfKey (ns.map Method.key ++ seen) ms' := by
    refine firstOfKey_congr fun m _ => ?_
    simp only [List.mem_append, h.mem_keys_iff]
  rw [firstOfKey_append, firstOfKey_append, h seen, hrest, h']

end SameFirsts

end Typings.Java
