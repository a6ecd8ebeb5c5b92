import Gatehouse.Text.Hex

/-!
Percent-encoding: bytes of a target that are written as a percent sign and two hexadecimal digits.

Decoding never fails: a percent sign without two digits behind it stands for itself.
-/

namespace Gatehouse.Http.Percent

/-- The bytes that a part of a target stands for; its characters are bytes. -/
def decode : List Char → Bytes
  | [] => []
  | '%' :: a :: b :: r =>
    match Text.Hex.value? a, Text.Hex.value? b with
    | some x, some y => UInt8.ofNat (16 * x + y) :: decode r
    | _, _ => 0x25 :: decode (a :: b :: r)
  | c :: r => Bytes.byte c :: decode r

/-- The text that a part of a target stands for, if its bytes are UTF-8. -/
def decodeText? (cs : List Char) : Option String := Bytes.ofUtf8? (decode cs)

/-- What holds no percent sign stands for itself. -/
theorem decode_eq_map {cs : List Char} (h : '%' ∉ cs) : decode cs = cs.map Bytes.byte := by
  fun_induction decode cs with
  | case1 => rfl
  | case2 => simp at h
  | case3 => simp at h
  | case4 c r _ ih => simp only [List.mem_cons, not_or] at h; simp [ih h.2]

end Gatehouse.Http.Percent
