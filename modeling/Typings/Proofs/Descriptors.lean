import Mathlib.Data.List.Forall2
import Typings.Java.Descriptor
import Typings.Proofs.TextParts

/-!
# Descriptors of types

A word stands for a type if it is read as this type whatever follows it. The words of parameter types can then be written
one after the other.
-/

namespace Typings.Java

lemma TypeName.text_succ (element : String) (rank : Nat) :
    TypeName.text ⟨element, rank + 1⟩ = TypeName.text ⟨element, rank⟩ ++ "[]" := by
  have hbrackets : brackets (rank + 1) = brackets rank ++ "[]" := by
    rw [← String.toList_inj, brackets, brackets, List.replicate_succ']
    simp
  rw [text, text, hbrackets, String.append_assoc]

/-- The letter of the type in descriptors. -/
def Primitive.letter : Primitive → Char
  | boolean => 'Z'
  | byte => 'B'
  | char => 'C'
  | short => 'S'
  | int => 'I'
  | long => 'J'
  | float => 'F'
  | double => 'D'

lemma Primitive.letterType?_letter (p : Primitive) : Descriptor.letterType? p.letter = some p.name := by
  cases p <;> rfl

namespace Descriptor

/-- The word is read as the type, whatever follows it. -/
def Denotes (word : List Char) (t : TypeName) : Prop :=
  ∀ rest, readType (word ++ rest) = .ok (t, rest)

section Types

variable {word : List Char} {t : TypeName}

lemma Denotes.of_letter {c : Char} {name : String} (h : letterType? c = some name) : Denotes [c] ⟨name, 0⟩ := by
  intro rest
  rw [List.singleton_append, readType, h]
  · rintro rfl
    cases h
  · rintro rfl
    cases h

/-- The name of a class stands between an `L` and a semicolon. -/
lemma Denotes.of_className {cs : List Char} (h : ';' ∉ cs) : Denotes ('L' :: cs ++ [';']) ⟨dotted cs, 0⟩ := by
  intro rest
  have hcs : ∀ c ∈ cs, decide (c ≠ ';') = true := by
    intro c hc
    rw [decide_eq_true_eq]
    rintro rfl
    exact h hc
  obtain ⟨htake, hdrop⟩ := Text.takeWhile_dropWhile_append hcs (by simp : ∀ c ∈ (';' :: rest).head?, decide (c ≠ ';') = false)
  rw [List.append_assoc, List.singleton_append, List.cons_append, readType, hdrop, htake]

lemma Denotes.array (h : Denotes word t) : Denotes ('[' :: word) { t with rank := t.rank + 1 } := by
  intro rest
  rw [List.cons_append, readType, h rest]
  rfl

/-- No type starts with the closing parenthesis. -/
lemma readTypes_of_readType {cs rest : List Char} (h : readType cs = .ok (t, rest)) :
    readTypes cs = (readTypes rest).map fun (ts, rest) => (t :: ts, rest) := by
  cases cs with
  | nil => cases h
  | cons c cs =>
    have hne : c ≠ ')' := by
      rintro rfl
      cases h
    rw [readTypes]
    · split
      · next hread => simp [h] at hread
      · next hread =>
        rw [h, Except.ok.injEq, Prod.mk.injEq] at hread
        obtain ⟨rfl, rfl⟩ := hread
        cases readTypes rest <;> rfl
    · exact hne

/-- Types up to the closing parenthesis. -/
theorem readTypes_flatten {words : List (List Char)} {ts : List TypeName} (h : List.Forall₂ Denotes words ts)
    (rest : List Char) : readTypes (words.flatten ++ ')' :: rest) = .ok (ts, rest) := by
  induction h with
  | nil =>
    rw [List.flatten_nil, List.nil_append, readTypes]
  | @cons word t words ts hword _ ih =>
    have hread := hword (words.flatten ++ ')' :: rest)
    rw [List.flatten_cons, List.append_assoc, readTypes_of_readType hread, ih]
    rfl

lemma read_method {words : List (List Char)} {ts : List TypeName} (hparameters : List.Forall₂ Denotes words ts)
    (hreturn : Denotes word t) (rest : List Char) :
    read ('(' :: words.flatten ++ ')' :: (word ++ rest)) = .ok ⟨some (ts.map TypeName.text), t.text⟩ := by
  rw [List.cons_append, read, readTypes_flatten hparameters]
  simp only [bind, Except.bind, hreturn rest]
  rfl

lemma read_field (h : Denotes word t) (rest : List Char) : read (word ++ rest) = .ok ⟨none, t.text⟩ := by
  have hread := h rest
  have hne : ∀ cs, word ++ rest ≠ '(' :: cs := by
    intro cs hcs
    rw [hcs] at hread
    cases hread
  rw [read]
  · simp only [bind, Except.bind, hread]
    rfl
  · exact hne

lemma ofString_eq_ok_iff {s : String} {d : Descriptor} : ofString s = .ok d ↔ read s.toList = .ok d := by
  rw [ofString]
  split <;> simp [*]

/-- A method's descriptor: its parameter types in parentheses and its return type. -/
theorem ofString_method {words : List (List Char)} {ts : List TypeName} (hparameters : List.Forall₂ Denotes words ts)
    (hreturn : Denotes word t) : ofString (String.ofList ('(' :: words.flatten ++ ')' :: word)) =
      .ok ⟨some (ts.map TypeName.text), t.text⟩ := by
  have hread := read_method hparameters hreturn []
  rwa [List.append_nil, ← String.toList_ofList (l := '(' :: words.flatten ++ ')' :: word), ← ofString_eq_ok_iff] at hread

/-- A field's descriptor is a type. -/
theorem ofString_field (h : Denotes word t) : ofString (String.ofList word) = .ok ⟨none, t.text⟩ := by
  have hread := read_field h []
  rwa [List.append_nil, ← String.toList_ofList (l := word), ← ofString_eq_ok_iff] at hread

end Types

end Descriptor

end Typings.Java
