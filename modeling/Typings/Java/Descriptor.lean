import Typings.Java.Name
import Typings.Text.Quoted

/-!
# Descriptors

The compact notation in which class files give the types of members: a letter for a primitive or `void`, `L…;` for a
class, with slashes for dots, and a `[` in front for each array dimension. The descriptor of a method has its parameter
types in parentheses before its return type.
-/

namespace Typings.Java

/-- Why a descriptor cannot be read. -/
inductive DescriptorError
  /-- The text ends too early. -/
  | ended
  /-- A class name is not closed by a semicolon. -/
  | unclosedName
  /-- No type starts with the character at `index`. -/
  | badCode (descriptor : String) (index : Nat)
  deriving DecidableEq, Repr

/-- The text of the error, where it has one. -/
def DescriptorError.message? : DescriptorError → Option String
  | .ended | .unclosedName => none
  | .badCode descriptor index =>
    some ("Bad descriptor " ++ Text.Quoted.encode descriptor ++ " at " ++ toString index)

/-- The types that a descriptor names; a field's has no parameter list. -/
structure Descriptor where
  parameters : Option (List String)
  type : String
  deriving DecidableEq, Repr

namespace Descriptor

/-- The type that a single letter stands for. -/
def letterType? : Char → Option String
  | 'B' => some "byte"
  | 'C' => some "char"
  | 'D' => some "double"
  | 'F' => some "float"
  | 'I' => some "int"
  | 'J' => some "long"
  | 'S' => some "short"
  | 'Z' => some "boolean"
  | 'V' => some "void"
  | _ => none

/-- A class name with dots for slashes. -/
def dotted (cs : List Char) : String :=
  String.ofList (cs.map fun c => if c = '/' then '.' else c)

/-- Why no type can be read, with the number of characters that were left. -/
inductive TypeError
  | ended
  | unclosedName
  | badCode (left : Nat)

/-- Reads the type at the front of the text and returns what follows it. -/
def readType : List Char → Except TypeError (TypeName × List Char)
  | [] => .error .ended
  | '[' :: cs => do
    let (t, rest) ← readType cs
    return ({ t with rank := t.rank + 1 }, rest)
  | 'L' :: cs =>
    match cs.dropWhile (· ≠ ';') with
    | [] => .error .unclosedName
    | _ :: rest => .ok (⟨dotted (cs.takeWhile (· ≠ ';')), 0⟩, rest)
  | c :: cs =>
    match letterType? c with
    | some name => .ok (⟨name, 0⟩, cs)
    | none => .error (.badCode (cs.length + 1))

theorem readType_length_lt {cs rest : List Char} {t : TypeName} (h : readType cs = .ok (t, rest)) :
    rest.length < cs.length := by
  fun_induction readType cs generalizing t rest with
  | case1 => cases h
  | case2 cs ih =>
    cases hc : readType cs with
    | error e => simp [hc, bind, Except.bind] at h
    | ok r =>
      have := @ih r.2 r.1 hc
      simp only [hc, bind, Except.bind, pure, Except.pure, Except.ok.injEq, Prod.mk.injEq] at h
      simp only [List.length_cons, ← h.2]
      omega
  | case3 => cases h
  | case4 cs _ rest' hd =>
    simp only [Except.ok.injEq, Prod.mk.injEq] at h
    have := (List.dropWhile_suffix (l := cs) (· ≠ ';')).length_le
    simp only [hd, List.length_cons] at this ⊢
    rw [← h.2]
    omega
  | case5 =>
    simp only [Except.ok.injEq, Prod.mk.injEq] at h
    simp [← h.2]
  | case6 => cases h

/-- Reads types up to the closing parenthesis and returns what follows it. -/
def readTypes (cs : List Char) : Except TypeError (List TypeName × List Char) :=
  match cs with
  | [] => .error .ended
  | ')' :: rest => .ok ([], rest)
  | c :: cs =>
    match _h : readType (c :: cs) with
    | .error e => .error e
    | .ok (t, rest) => do
      let (ts, rest) ← readTypes rest
      return (t :: ts, rest)
termination_by cs.length
decreasing_by exact readType_length_lt (by assumption)

/-- Reads a descriptor; text after it is ignored. -/
def read (cs : List Char) : Except TypeError Descriptor :=
  match cs with
  | '(' :: rest => do
    let (parameters, rest) ← readTypes rest
    let (type, _) ← readType rest
    return ⟨some (parameters.map TypeName.text), type.text⟩
  | cs => do
    let (type, _) ← readType cs
    return ⟨none, type.text⟩

/-- Reads a descriptor; text after it is ignored. -/
def ofString (s : String) : Except DescriptorError Descriptor :=
  match read s.toList with
  | .ok d => .ok d
  | .error .ended => .error .ended
  | .error .unclosedName => .error .unclosedName
  | .error (.badCode left) => .error (.badCode s (s.length - left))

end Descriptor

end Typings.Java
