import Gatehouse.Text.Bytes

/-!
Names under which requests are traced.

A name has 26 characters: ten for the milliseconds since 1970 and sixteen for ten random bytes, so
that names sort by time. A client may bring a name of its own.
-/

namespace Gatehouse.Http.RequestId

/-- The digits of names: those of base 32 without letters that look like others. -/
def alphabet : List Char := "0123456789ABCDEFGHJKMNPQRSTVWXYZ".toList

/-- The last `k` digits of a number in base 32. -/
def digits : Nat → Nat → List Char
  | 0, _ => []
  | k + 1, n => digits k (n / 32) ++ [alphabet.getD (n % 32) '0']

/-- The name of a request that comes at a time, in milliseconds since 1970. -/
def make (millis : Nat) (random : Bytes) : String :=
  String.ofList (digits 10 millis ++ digits 16 (Bytes.toNatBE (random.take 10)))

theorem length_digits (k n : Nat) : (digits k n).length = k := by
  induction k generalizing n with
  | zero => rfl
  | succ k ih => simp [digits, ih]

end Gatehouse.Http.RequestId
