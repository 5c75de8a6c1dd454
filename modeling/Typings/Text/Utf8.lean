/-!
# Reading UTF-8

Bytes are read into characters and into pieces that are no character; a piece is the longest start of a character that
the bytes have, or a single byte. A strict reader accepts no such piece, a lenient one replaces each by U+FFFD.
-/

namespace Typings.Text.Utf8

/-- What the first byte of a character says: how many bytes follow, the range of the first of these, and the bits that
the byte contributes. -/
structure Lead where
  following : Nat
  low : Nat
  high : Nat
  bits : Nat
  deriving DecidableEq, Repr

/-- What a byte says as the first byte of a character of several bytes. The ranges of the second byte leave out
surrogates, numbers beyond the last character, and forms that are longer than needed. -/
def lead? (b : Nat) : Option Lead :=
  if 0xC2 ≤ b ∧ b ≤ 0xDF then some ⟨1, 0x80, 0xBF, b - 0xC0⟩
  else if b = 0xE0 then some ⟨2, 0xA0, 0xBF, 0⟩
  else if b = 0xED then some ⟨2, 0x80, 0x9F, 0xD⟩
  else if 0xE1 ≤ b ∧ b ≤ 0xEF then some ⟨2, 0x80, 0xBF, b - 0xE0⟩
  else if b = 0xF0 then some ⟨3, 0x90, 0xBF, 0⟩
  else if 0xF1 ≤ b ∧ b ≤ 0xF3 then some ⟨3, 0x80, 0xBF, b - 0xF0⟩
  else if b = 0xF4 then some ⟨3, 0x80, 0x8F, 4⟩
  else none

/-- Reads the bytes that follow the first one of a character, of which `bits` are known. The next byte has to be in
the given range. -/
def readFollowing (low high bits : Nat) : Nat → List UInt8 → Option Char × List UInt8
  | 0, bs => (some (Char.ofNat bits), bs)
  | _ + 1, [] => (none, [])
  | n + 1, b :: bs =>
    if low ≤ b.toNat ∧ b.toNat ≤ high then readFollowing 0x80 0xBF (bits * 64 + (b.toNat - 0x80)) n bs
    else (none, b :: bs)

theorem length_readFollowing_le (low high bits n : Nat) (bs : List UInt8) :
    (readFollowing low high bits n bs).2.length ≤ bs.length := by
  induction n generalizing low high bits bs with
  | zero => simp [readFollowing]
  | succ n ih =>
    cases bs with
    | nil => simp [readFollowing]
    | cons b bs =>
      rw [readFollowing]
      split
      · exact Nat.le_succ_of_le (ih ..)
      · exact Nat.le_refl _

/-- Reads the character or the piece that starts with the byte `b`. -/
def readOne (b : UInt8) (bs : List UInt8) : Option Char × List UInt8 :=
  if b.toNat < 0x80 then (some (Char.ofNat b.toNat), bs)
  else match lead? b.toNat with
    | none => (none, bs)
    | some l => readFollowing l.low l.high l.bits l.following bs

theorem length_readOne_le (b : UInt8) (bs : List UInt8) : (readOne b bs).2.length ≤ bs.length := by
  unfold readOne
  split
  · exact Nat.le_refl _
  · split
    · exact Nat.le_refl _
    · exact length_readFollowing_le ..

/-- The characters of a sequence of bytes, with `none` for each piece that is no character. -/
def pieces : List UInt8 → List (Option Char)
  | [] => []
  | b :: bs => (readOne b bs).1 :: pieces (readOne b bs).2
termination_by bs => bs.length
decreasing_by
  have := length_readOne_le b bs
  simp only [List.length_cons]
  omega

/-- The characters, if the bytes are nothing else. -/
def decode? (bytes : ByteArray) : Option (List Char) :=
  (pieces bytes.toList).mapM id

/-- The characters, with U+FFFD for each piece that is no character. -/
def decodeReplacing (bytes : ByteArray) : List Char :=
  (pieces bytes.toList).map (·.getD '\uFFFD')

end Typings.Text.Utf8
