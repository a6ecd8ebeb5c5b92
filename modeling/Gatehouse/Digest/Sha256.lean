import Gatehouse.Text.Bytes

/-!
SHA-256, and the keyed code HMAC over it.

The message is padded to whole blocks of 64 bytes, each block is spread over 64 schedule words, and
the eight chaining words are folded over the blocks. Whatever the message, the result has 32 bytes.
-/

namespace Gatehouse.Digest.Sha256

/-- The eight chaining words. -/
structure Words where
  (a b c d e f g h : UInt32)

/-- The fractional parts of the square roots of the first eight primes. -/
def Words.initial : Words :=
  ⟨0x6a09e667, 0xbb67ae85, 0x3c6ef372, 0xa54ff53a, 0x510e527f, 0x9b05688c, 0x1f83d9ab, 0x5be0cd19⟩

/-- The fractional parts of the cube roots of the first 64 primes. -/
def roundConstants : List UInt32 :=
  [0x428a2f98, 0x71374491, 0xb5c0fbcf, 0xe9b5dba5, 0x3956c25b, 0x59f111f1, 0x923f82a4, 0xab1c5ed5,
   0xd807aa98, 0x12835b01, 0x243185be, 0x550c7dc3, 0x72be5d74, 0x80deb1fe, 0x9bdc06a7, 0xc19bf174,
   0xe49b69c1, 0xefbe4786, 0x0fc19dc6, 0x240ca1cc, 0x2de92c6f, 0x4a7484aa, 0x5cb0a9dc, 0x76f988da,
   0x983e5152, 0xa831c66d, 0xb00327c8, 0xbf597fc7, 0xc6e00bf3, 0xd5a79147, 0x06ca6351, 0x14292967,
   0x27b70a85, 0x2e1b2138, 0x4d2c6dfc, 0x53380d13, 0x650a7354, 0x766a0abb, 0x81c2c92e, 0x92722c85,
   0xa2bfe8a1, 0xa81a664b, 0xc24b8b70, 0xc76c51a3, 0xd192e819, 0xd6990624, 0xf40e3585, 0x106aa070,
   0x19a4c116, 0x1e376c08, 0x2748774c, 0x34b0bcb5, 0x391c0cb3, 0x4ed8aa4a, 0x5b9cca4f, 0x682e6ff3,
   0x748f82ee, 0x78a5636f, 0x84c87814, 0x8cc70208, 0x90befffa, 0xa4506ceb, 0xbef9a3f7, 0xc67178f2]

/-- Rotation to the right. -/
@[inline] def rotate (x : UInt32) (n : UInt32) : UInt32 :=
  (x >>> n) ||| (x <<< (32 - n))

/-- The message followed by a one bit, zeros, and its length in bits, in whole blocks. -/
def pad (m : Bytes) : Bytes :=
  let zeros := (119 - m.length % 64) % 64
  m ++ 0x80 :: (List.replicate zeros 0 ++ Bytes.ofNatBE 8 (8 * m.length))

/-- The words that a block spells. -/
def blockWords (block : Bytes) : List UInt32 :=
  (Bytes.chunks 3 block).map fun w => UInt32.ofNat (Bytes.toNatBE w)

/-- The next schedule word from the last sixteen, which are kept newest first. -/
def nextWord (w : Array UInt32) (t : Nat) : UInt32 :=
  let w15 := w.getD (t - 15) 0
  let w2 := w.getD (t - 2) 0
  let s0 := rotate w15 7 ^^^ rotate w15 18 ^^^ (w15 >>> 3)
  let s1 := rotate w2 17 ^^^ rotate w2 19 ^^^ (w2 >>> 10)
  w.getD (t - 16) 0 + s0 + w.getD (t - 7) 0 + s1

/-- The 64 schedule words of a block. -/
def schedule (block : Bytes) : List UInt32 :=
  let w := (List.range 48).foldl (fun w i => w.push (nextWord w (i + 16))) (blockWords block).toArray
  w.toList

/-- One round: a schedule word and a constant go into the chaining words. -/
def round (s : Words) (kw : UInt32 × UInt32) : Words :=
  let s1 := rotate s.e 6 ^^^ rotate s.e 11 ^^^ rotate s.e 25
  let ch := (s.e &&& s.f) ^^^ ((~~~ s.e) &&& s.g)
  let t1 := s.h + s1 + ch + kw.1 + kw.2
  let s0 := rotate s.a 2 ^^^ rotate s.a 13 ^^^ rotate s.a 22
  let maj := (s.a &&& s.b) ^^^ (s.a &&& s.c) ^^^ (s.b &&& s.c)
  ⟨t1 + (s0 + maj), s.a, s.b, s.c, s.d + t1, s.e, s.f, s.g⟩

/-- The chaining words after one more block. -/
def absorb (s : Words) (block : Bytes) : Words :=
  let r := (roundConstants.zip (schedule block)).foldl round s
  ⟨s.a + r.a, s.b + r.b, s.c + r.c, s.d + r.d, s.e + r.e, s.f + r.f, s.g + r.g, s.h + r.h⟩

/-- The bytes of the chaining words. -/
def Words.toBytes (s : Words) : Bytes :=
  [s.a, s.b, s.c, s.d, s.e, s.f, s.g, s.h].flatMap fun w => Bytes.ofNatBE 4 w.toNat

/-- The SHA-256 digest of a message. -/
def hash (m : Bytes) : Bytes :=
  ((Bytes.chunks 63 (pad m)).foldl absorb Words.initial).toBytes

@[simp] theorem length_hash (m : Bytes) : (hash m).length = 32 := by
  simp [hash, Words.toBytes]

/-- A key of one block: a longer key is hashed first, a shorter one is filled with zeros. -/
def keyBlock (key : Bytes) : Bytes :=
  let k := if key.length > 64 then hash key else key
  k ++ List.replicate (64 - k.length) 0

/-- HMAC-SHA256 of a message under a key. -/
def hmac (key message : Bytes) : Bytes :=
  let k := keyBlock key
  hash (k.map (· ^^^ 0x5c) ++ hash (k.map (· ^^^ 0x36) ++ message))

@[simp] theorem length_hmac (key message : Bytes) : (hmac key message).length = 32 := by
  simp [hmac]

end Gatehouse.Digest.Sha256
