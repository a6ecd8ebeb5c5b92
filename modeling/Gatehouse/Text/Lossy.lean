import Gatehouse.Text.Bytes

/-!
Text for bytes that may be no text.

Every byte string has a reading: what is well-formed UTF-8 stands for itself, and the replacement
character stands for what is not. A character that breaks off is replaced as a whole, by one
replacement character for the bytes of it that are there.
-/

namespace Gatehouse.Text.Lossy

/-- The character that stands for what is no text. -/
def replacement : Char := '\ufffd'

/-- The form of a character by its first byte: the bits that this byte gives, the number of bytes
behind it, and the range in which the first of these has to lie. -/
structure Form where
  bits : Nat
  rest : Nat
  low : UInt8
  high : UInt8
deriving DecidableEq, Repr

/-- The form of a character of more than one byte that starts with a byte. The narrower ranges keep
out what could be written shorter, surrogates, and what is beyond the last character. -/
def form? (b : UInt8) : Option Form :=
  if b < 0xc2 then none
  else if b < 0xe0 then some ⟨b.toNat - 0xc0, 1, 0x80, 0xbf⟩
  else if b < 0xf0 then
    some ⟨b.toNat - 0xe0, 2, if b = 0xe0 then 0xa0 else 0x80, if b = 0xed then 0x9f else 0xbf⟩
  else if b < 0xf5 then
    some ⟨b.toNat - 0xf0, 3, if b = 0xf0 then 0x90 else 0x80, if b = 0xf4 then 0x8f else 0xbf⟩
  else none

/-- Up to `n` bytes of the inside of a character, the first of them in a given range. -/
def inside : Nat → UInt8 → UInt8 → Bytes → Bytes
  | n + 1, low, high, b :: r => if low ≤ b ∧ b ≤ high then b :: inside n 0x80 0xbf r else []
  | _, _, _, _ => []

/-- The character at the front of the input behind its first byte, and how many bytes more it
takes. -/
def character (f : Form) (r : Bytes) : Char × Nat :=
  let more := inside f.rest f.low f.high r
  (if more.length = f.rest then
    Char.ofNat (more.foldl (fun n b => n * 64 + (b.toNat - 0x80)) f.bits)
  else replacement, more.length)

/-- The characters that stand for a byte string. -/
def chars (b : Bytes) : List Char :=
  match b with
  | [] => []
  | x :: r =>
    if x < 0x80 then Char.ofNat x.toNat :: chars r
    else match form? x with
      | none => replacement :: chars r
      | some f => (character f r).1 :: chars (r.drop (character f r).2)
termination_by b.length
decreasing_by all_goals simp only [List.length_drop, List.length_cons]; omega

/-- The text that stands for a byte string. -/
def text (b : Bytes) : String :=
  String.ofList (chars b)

end Gatehouse.Text.Lossy
