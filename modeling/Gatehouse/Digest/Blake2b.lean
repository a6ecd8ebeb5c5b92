import Gatehouse.Text.Bytes

/-!
BLAKE2b without a key, with any output length from 1 to 64 bytes.

Sixteen words form a `Row`; the hash works on one row of state, and the memory-hard function built
on it works on blocks of eight rows.
-/

namespace Gatehouse.Digest

/-- Sixteen words of 64 bits. -/
structure Row where
  (w0 w1 w2 w3 w4 w5 w6 w7 w8 w9 w10 w11 w12 w13 w14 w15 : UInt64)
deriving Inhabited

/-- The four words that one mixing step takes and gives. -/
structure Quad where
  (a b c d : UInt64)

/-- Rotation to the right. -/
@[inline] def rotate64 (x n : UInt64) : UInt64 :=
  (x >>> n) ||| (x <<< (64 - n))

namespace Blake2b

/-- The fractional parts of the square roots of the first eight primes. -/
def initial : List UInt64 :=
  [0x6a09e667f3bcc908, 0xbb67ae8584caa73b, 0x3c6ef372fe94f82b, 0xa54ff53a5f1d36f1,
   0x510e527fade682d1, 0x9b05688c2b3e6c1f, 0x1f83d9abfb41bd6b, 0x5be0cd19137e2179]

/-- The order in which message words enter the rounds; the last two rounds repeat the first two. -/
def orders : List (List Nat) :=
  let first := [0, 1, 2, 3, 4, 5, 6, 7, 8, 9, 10, 11, 12, 13, 14, 15]
  let second := [14, 10, 4, 8, 9, 15, 13, 6, 1, 12, 0, 2, 11, 7, 5, 3]
  [first, second,
   [11, 8, 12, 0, 5, 2, 15, 13, 10, 14, 3, 6, 7, 1, 9, 4],
   [7, 9, 3, 1, 13, 12, 11, 14, 2, 6, 5, 10, 4, 0, 15, 8],
   [9, 0, 5, 7, 2, 4, 10, 15, 14, 1, 11, 12, 6, 8, 3, 13],
   [2, 12, 6, 10, 0, 11, 8, 3, 4, 13, 7, 5, 15, 14, 1, 9],
   [12, 5, 1, 15, 14, 13, 4, 10, 0, 7, 6, 3, 9, 2, 8, 11],
   [13, 11, 7, 14, 12, 1, 3, 9, 5, 0, 15, 4, 8, 6, 2, 10],
   [6, 15, 14, 9, 11, 3, 0, 8, 12, 2, 13, 7, 1, 4, 10, 5],
   [10, 2, 8, 4, 7, 6, 1, 5, 15, 11, 9, 14, 3, 12, 13, 0],
   first, second]

/-- Mixes four words of the state with two of the message. -/
@[inline] def mix (a b c d x y : UInt64) : Quad :=
  let a := a + b + x
  let d := rotate64 (d ^^^ a) 32
  let c := c + d
  let b := rotate64 (b ^^^ c) 24
  let a := a + b + y
  let d := rotate64 (d ^^^ a) 16
  let c := c + d
  let b := rotate64 (b ^^^ c) 63
  ⟨a, b, c, d⟩

/-- One round over the state, first down its columns and then along its diagonals. -/
def round (m : Array UInt64) (v : Row) (order : List Nat) : Row :=
  let w := fun i => m.getD (order.getD i 0) 0
  let p := mix v.w0 v.w4 v.w8 v.w12 (w 0) (w 1)
  let q := mix v.w1 v.w5 v.w9 v.w13 (w 2) (w 3)
  let r := mix v.w2 v.w6 v.w10 v.w14 (w 4) (w 5)
  let s := mix v.w3 v.w7 v.w11 v.w15 (w 6) (w 7)
  let e := mix p.a q.b r.c s.d (w 8) (w 9)
  let f := mix q.a r.b s.c p.d (w 10) (w 11)
  let g := mix r.a s.b p.c q.d (w 12) (w 13)
  let h := mix s.a p.b q.c r.d (w 14) (w 15)
  ⟨e.a, f.a, g.a, h.a, h.b, e.b, f.b, g.b, g.c, h.c, e.c, f.c, f.d, g.d, h.d, e.d⟩

/-- The words that bytes spell, eight bytes a word. -/
def words (b : Bytes) : List UInt64 :=
  (Bytes.chunks 7 b).map fun w => UInt64.ofNat (Bytes.toNatLE w)

/-- The bytes of words. -/
def wordBytes (ws : List UInt64) : Bytes :=
  ws.flatMap fun w => Bytes.ofNatLE 8 w.toNat

/-- The chaining words after one more block of 128 bytes, when `count` bytes are taken in. -/
def absorb (h : List UInt64) (block : Bytes) (count : Nat) (last : Bool) : List UInt64 :=
  let s := h.toArray
  let k := initial.toArray
  let final : UInt64 := if last then 0xffffffffffffffff else 0
  let v : Row :=
    ⟨s.getD 0 0, s.getD 1 0, s.getD 2 0, s.getD 3 0, s.getD 4 0, s.getD 5 0, s.getD 6 0, s.getD 7 0,
     k.getD 0 0, k.getD 1 0, k.getD 2 0, k.getD 3 0, k.getD 4 0 ^^^ UInt64.ofNat (count % 0x10000000000000000),
     k.getD 5 0 ^^^ UInt64.ofNat (count / 0x10000000000000000), k.getD 6 0 ^^^ final, k.getD 7 0⟩
  let v := orders.foldl (round (words block).toArray) v
  [s.getD 0 0 ^^^ v.w0 ^^^ v.w8, s.getD 1 0 ^^^ v.w1 ^^^ v.w9,
   s.getD 2 0 ^^^ v.w2 ^^^ v.w10, s.getD 3 0 ^^^ v.w3 ^^^ v.w11,
   s.getD 4 0 ^^^ v.w4 ^^^ v.w12, s.getD 5 0 ^^^ v.w5 ^^^ v.w13,
   s.getD 6 0 ^^^ v.w6 ^^^ v.w14, s.getD 7 0 ^^^ v.w7 ^^^ v.w15]

/-- The chaining words after all blocks; the last one is filled up with zeros. -/
def absorbAll (h : List UInt64) (count : Nat) : List Bytes → List UInt64
  | [] => absorb h (List.replicate 128 0) count true
  | [block] =>
    absorb h (block ++ List.replicate (128 - block.length) 0) (count + block.length) true
  | block :: blocks => absorbAll (absorb h block (count + block.length) false) (count + block.length) blocks

/-- The BLAKE2b hash of a message with an output of `size` bytes. -/
def hash (size : Nat) (message : Bytes) : Bytes :=
  let start := match initial with
    | k :: ks => (k ^^^ 0x01010000 ^^^ UInt64.ofNat size) :: ks
    | [] => []
  (wordBytes (absorbAll start 0 (Bytes.chunks 127 message))).take size

end Blake2b
end Gatehouse.Digest
