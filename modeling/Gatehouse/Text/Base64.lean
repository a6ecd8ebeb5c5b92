import Gatehouse.Text.Bytes

/-!
Base64 in its three dialects: URL-safe without padding, and standard with and without padding.

Only canonical text is read. `decode?` reads the digits and then demands that writing the bytes
gives the same text again, which settles at one stroke that the bits left over in the last digit are
zero, that padding is exactly what is needed, and that nothing else stands in the text.
-/

namespace Gatehouse.Text

/-- A dialect: the characters for the values 62 and 63, and whether the last group is filled up. -/
structure Base64 where
  plus : Char
  slash : Char
  padded : Bool

namespace Base64

/-- The dialect of tokens and invitations. -/
def url : Base64 := ⟨'-', '_', false⟩

/-- The dialect of basic credentials. -/
def standard : Base64 := ⟨'+', '/', true⟩

/-- The dialect of stored password records. -/
def bare : Base64 := ⟨'+', '/', false⟩

variable (d : Base64)

/-- The digit of a value below 64. -/
def digit (v : Nat) : Char :=
  if v < 26 then Char.ofNat ('A'.toNat + v)
  else if v < 52 then Char.ofNat ('a'.toNat + (v - 26))
  else if v < 62 then Char.ofNat ('0'.toNat + (v - 52))
  else if v = 62 then d.plus
  else d.slash

/-- The value of a digit. -/
def value? (c : Char) : Option Nat :=
  if 'A' ≤ c ∧ c ≤ 'Z' then some (c.toNat - 'A'.toNat)
  else if 'a' ≤ c ∧ c ≤ 'z' then some (c.toNat - 'a'.toNat + 26)
  else if '0' ≤ c ∧ c ≤ '9' then some (c.toNat - '0'.toNat + 52)
  else if c = d.plus then some 62
  else if c = d.slash then some 63
  else none

/-- `n` padding characters, in a dialect that has them. -/
def padding (n : Nat) : List Char :=
  if d.padded then List.replicate n '=' else []

/-- The written form of a byte string: four digits for three bytes. -/
def encodeChars : Bytes → List Char
  | [] => []
  | [a] =>
    [d.digit (a.toNat / 4), d.digit (a.toNat % 4 * 16)] ++ d.padding 2
  | [a, b] =>
    [d.digit (a.toNat / 4), d.digit (a.toNat % 4 * 16 + b.toNat / 16),
      d.digit (b.toNat % 16 * 4)] ++ d.padding 1
  | a :: b :: c :: r =>
    d.digit (a.toNat / 4) :: d.digit (a.toNat % 4 * 16 + b.toNat / 16) ::
      d.digit (b.toNat % 16 * 4 + c.toNat / 64) :: d.digit (c.toNat % 64) :: encodeChars r

/-- The bytes that digit values spell; bits left over at the end are dropped. -/
def ofValues : List Nat → Bytes
  | u :: v :: w :: x :: r =>
    UInt8.ofNat (u * 4 + v / 16) :: UInt8.ofNat (v % 16 * 16 + w / 4) ::
      UInt8.ofNat (w % 4 * 64 + x) :: ofValues r
  | [u, v, w] => [UInt8.ofNat (u * 4 + v / 16), UInt8.ofNat (v % 16 * 16 + w / 4)]
  | [u, v] => [UInt8.ofNat (u * 4 + v / 16)]
  | _ => []

/-- The digit values of a text, up to its padding; `none` if another character is met. -/
def values? : List Char → Option (List Nat)
  | [] => some []
  | c :: cs =>
    if d.padded && c == '=' then some []
    else match d.value? c with
      | none => none
      | some v => (values? cs).map (v :: ·)

/-- The bytes whose written form a text is. -/
def decodeChars? (cs : List Char) : Option Bytes :=
  match d.values? cs with
  | none => none
  | some vs => if d.encodeChars (ofValues vs) = cs then some (ofValues vs) else none

/-- A byte string in base64. -/
def encode (b : Bytes) : String :=
  String.ofList (d.encodeChars b)

/-- The bytes that a text stands for. -/
def decode? (s : String) : Option Bytes :=
  d.decodeChars? s.toList

/-- Whatever is read is the written form of the result, so a byte string has one text only. -/
theorem eq_encodeChars_of_decodeChars? {cs : List Char} {b : Bytes}
    (h : d.decodeChars? cs = some b) : cs = d.encodeChars b := by
  unfold decodeChars? at h
  split at h
  · cases h
  · split at h
    · rename_i e
      simpa [← Option.some.inj h] using e.symm
    · cases h

end Base64
end Gatehouse.Text
