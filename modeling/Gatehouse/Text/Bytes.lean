/-!
Byte strings and the text they spell.

`Bytes` is the form in which everything arrives from outside; `utf8` and `ofUtf8?` are the two
directions between it and text, and every reader of the library that accepts foreign bytes goes
through them.
-/

namespace Gatehouse

/-- A byte string, first byte first. -/
abbrev Bytes := List UInt8

namespace Bytes

/-- The UTF-8 form of a text. -/
def utf8 (s : String) : Bytes :=
  s.toUTF8.data.toList

/-- The text that a byte string spells, if it is well-formed UTF-8. -/
def ofUtf8? (b : Bytes) : Option String :=
  String.fromUTF8? ⟨b.toArray⟩

/-- The byte of an ASCII character. -/
abbrev byte (c : Char) : UInt8 :=
  UInt8.ofNat c.toNat

/-- The characters of a byte string that is read as one character a byte. -/
def toChars (b : Bytes) : List Char :=
  b.map fun x => Char.ofNat x.toNat

/-- Consecutive pieces of `n + 1` bytes; the last one may be shorter. -/
def chunks (n : Nat) (b : Bytes) : List Bytes :=
  match b with
  | [] => []
  | x :: r => (x :: r.take n) :: chunks n (r.drop n)
termination_by b.length
decreasing_by simp only [List.length_drop, List.length_cons]; omega

/-- The number that a byte string spells with its most significant byte first. -/
def toNatBE (b : Bytes) : Nat :=
  b.foldl (fun n x => n * 256 + x.toNat) 0

/-- The number that a byte string spells with its least significant byte first. -/
def toNatLE (b : Bytes) : Nat :=
  b.foldr (fun x n => n * 256 + x.toNat) 0

/-- The `k` low bytes of a number, most significant first. -/
def ofNatBE : Nat → Nat → Bytes
  | 0, _ => []
  | k + 1, n => ofNatBE k (n / 256) ++ [UInt8.ofNat (n % 256)]

/-- The `k` low bytes of a number, least significant first. -/
def ofNatLE : Nat → Nat → Bytes
  | 0, _ => []
  | k + 1, n => UInt8.ofNat (n % 256) :: ofNatLE k (n / 256)

@[simp] theorem length_ofNatBE (k n : Nat) : (ofNatBE k n).length = k := by
  induction k generalizing n with
  | zero => rfl
  | succ k ih => simp [ofNatBE, ih]

@[simp] theorem length_ofNatLE (k n : Nat) : (ofNatLE k n).length = k := by
  induction k generalizing n with
  | zero => rfl
  | succ k ih => simp [ofNatLE, ih]

/-- Text survives its way through bytes. -/
theorem ofUtf8?_utf8 (s : String) : ofUtf8? (utf8 s) = some s := by
  simp [ofUtf8?, utf8, String.fromUTF8?, String.fromUTF8, s.isValidUTF8]

end Bytes
end Gatehouse
