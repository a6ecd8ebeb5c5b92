import Gatehouse.Json.Record

/-!
Texts survive their JSON form.

Escaping works byte by byte, so a text is read back without a look at its characters: every byte is
read back from its written form (`stringBytes_escape`), and the bytes of a text spell it again.
-/

namespace Gatehouse.Json

/-- The written form of a control character without a short escape is read as that character. -/
theorem escaped_control {b : UInt8} (h : b < 0x20) (s : Bytes) :
    escaped (0x75 :: 0x30 :: 0x30 :: ((Text.Hex.digits [b]).map Bytes.byte ++ s)) = .ok ([b], s) := by
  have hb : b.toNat < 32 := by simpa using UInt8.lt_iff_toNat_lt.mp h
  have high : ∀ n : Fin 32,
      hexByte? (Bytes.byte (Text.Hex.digit (n.val / 16))) = some (n.val / 16) := by decide
  have low : ∀ n : Fin 32,
      hexByte? (Bytes.byte (Text.Hex.digit (n.val % 16))) = some (n.val % 16) := by decide
  have point : ∀ n : Fin 32, codePoint n.val = [UInt8.ofNat n.val] := by decide
  have zero : hexByte? 0x30 = some 0 := by decide
  have whole : b.toNat / 16 * 16 + b.toNat % 16 = b.toNat := by omega
  have four : fourHex (0x30 :: 0x30 :: ((Text.Hex.digits [b]).map Bytes.byte ++ s)) =
      .ok (b.toNat, s) := by
    simp [fourHex, Text.Hex.digits, zero, high ⟨_, hb⟩, low ⟨_, hb⟩, whole]
  have surrogate₁ : ¬ (0xdc00 ≤ b.toNat ∧ b.toNat ≤ 0xdfff) := by omega
  have surrogate₂ : ¬ (0xd800 ≤ b.toNat ∧ b.toNat ≤ 0xdbff) := by omega
  simp only [escaped, four, if_neg surrogate₁, if_neg surrogate₂, point ⟨_, hb⟩, UInt8.ofNat_toNat]
  rfl

/-- What an escape stands for is read in place of it. -/
theorem stringBytes_of_escaped {done s x t : Bytes} (h : escaped s = .ok (x, t)) :
    stringBytes done (0x5c :: s) = stringBytes (x.reverse ++ done) t := by
  rw [stringBytes]
  simp only [show ¬ (0x5c : UInt8) = 0x22 by decide, if_false, if_true]
  split
  · rename_i he; rw [h] at he; cases he
  · rename_i he; rw [h] at he; cases he; rfl

theorem stringBytes_of_shortEscape {x b : UInt8} (h : shortEscape? x = some b) (done s : Bytes) :
    stringBytes done (0x5c :: x :: s) = stringBytes (b :: done) s := by
  have : escaped (x :: s) = .ok ([b], s) := by simp [escaped, h]
  exact stringBytes_of_escaped this

/-- A written byte is read back. -/
theorem stringBytes_escape (done : Bytes) (b : UInt8) (s : Bytes) :
    stringBytes done (escape b ++ s) = stringBytes (b :: done) s := by
  unfold escape
  split
  · subst b; exact stringBytes_of_shortEscape rfl done s
  split
  · subst b; exact stringBytes_of_shortEscape rfl done s
  split
  · subst b; exact stringBytes_of_shortEscape rfl done s
  split
  · subst b; exact stringBytes_of_shortEscape rfl done s
  split
  · subst b; exact stringBytes_of_shortEscape rfl done s
  split
  · subst b; exact stringBytes_of_shortEscape rfl done s
  split
  · subst b; exact stringBytes_of_shortEscape rfl done s
  split
  · rename_i h
    exact stringBytes_of_escaped (escaped_control h s)
  · rename_i quote slash _ _ _ _ _ control
    rw [List.cons_append, List.nil_append, stringBytes]
    simp only [if_neg quote, if_neg slash, if_neg control]

theorem stringBytes_flatMap_escape (done b s : Bytes) :
    stringBytes done (b.flatMap escape ++ 0x22 :: s) = .ok (done.reverse ++ b, s) := by
  induction b generalizing done with
  | nil => rw [List.flatMap_nil, List.nil_append, stringBytes]; simp
  | cons x b ih =>
    rw [List.flatMap_cons, List.append_assoc, stringBytes_escape, ih]
    simp

/-- A written text is read back, from behind its opening quote on. -/
theorem stringTail_quoted (t : String) (s : Bytes) :
    stringTail ((Bytes.utf8 t).flatMap escape ++ 0x22 :: s) = .ok (t, s) := by
  simp [stringTail, stringBytes_flatMap_escape, Bytes.ofUtf8?_utf8]

theorem quoted_append (t : String) (s : Bytes) :
    quoted t ++ s = 0x22 :: ((Bytes.utf8 t).flatMap escape ++ 0x22 :: s) := by
  simp [quoted]

/-- **A written text is read back**, whatever follows it. -/
theorem readText_quoted (t : String) (s : Bytes) : readText (quoted t ++ s) = .ok (t, s) := by
  rw [quoted_append]
  simp [readText, readFrom, skipBlanks, isBlank, stringTail_quoted]

end Gatehouse.Json
