import Gatehouse.Text.Bytes

/-!
Lowercase hexadecimal: two digits a byte.
-/

namespace Gatehouse.Text.Hex

/-- The digit of a number below sixteen. -/
def digit (n : Nat) : Char :=
  "0123456789abcdef".toList.getD n '0'

/-- The value of a digit, capital or small. -/
def value? (c : Char) : Option Nat :=
  if '0' ≤ c ∧ c ≤ '9' then some (c.toNat - '0'.toNat)
  else if 'a' ≤ c ∧ c ≤ 'f' then some (c.toNat - 'a'.toNat + 10)
  else if 'A' ≤ c ∧ c ≤ 'F' then some (c.toNat - 'A'.toNat + 10)
  else none

/-- The digits of a byte string. -/
def digits (b : Bytes) : List Char :=
  b.flatMap fun x => [digit (x.toNat / 16), digit (x.toNat % 16)]

/-- A byte string in hexadecimal. -/
def encode (b : Bytes) : String :=
  String.ofList (digits b)

theorem length_digits (b : Bytes) : (digits b).length = 2 * b.length := by
  induction b with
  | nil => rfl
  | cons x b ih => simp only [digits, List.flatMap_cons, List.length_append] at ih ⊢; simp [ih]; omega

end Gatehouse.Text.Hex
