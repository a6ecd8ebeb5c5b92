import Gatehouse.Text.Hex
import Gatehouse.Text.Pieces

/-!
Network addresses of clients and their text.

The text of an address of eight words leaves out the longest run of two or more zero words, the
first one of equally long runs. An address that wraps one of four bytes shows it in its usual form.
-/

namespace Gatehouse.Http

/-- An address of four bytes, or of eight words of 16 bits. -/
inductive Address where
  | v4 (bytes : List UInt8)
  | v6 (words : List UInt16)
deriving DecidableEq, Repr

namespace Address

/-- Decimal numbers with dots between them. -/
def dotted (bytes : List UInt8) : String :=
  ".".intercalate (bytes.map fun b => toString b.toNat)

/-- A word in hexadecimal, without zeros in front. -/
def hexWord (w : UInt16) : String :=
  String.ofList (Nat.toDigits 16 w.toNat)

/-- Words in hexadecimal with colons between them. -/
def hexWords (ws : List UInt16) : String :=
  ":".intercalate (ws.map hexWord)

/-- Start and length of the longest run of zeros, the first one of equally long ones; the list is
looked at from position `i` on. -/
def longestRun (i : Nat) : List UInt16 → Nat × Nat
  | [] => (i, 0)
  | w :: ws =>
    let here := ((w :: ws).takeWhile (· == 0)).length
    let later := longestRun (i + 1) ws
    if here ≥ later.2 then (i, here) else later

/-- The text of an address. -/
def text : Address → String
  | .v4 bytes => dotted bytes
  | .v6 [0, 0, 0, 0, 0, 0xffff, a, b] =>
    "::ffff:" ++ dotted [(a >>> 8).toUInt8, a.toUInt8, (b >>> 8).toUInt8, b.toUInt8]
  | .v6 words =>
    let (start, length) := longestRun 0 words
    if length ≥ 2 then
      hexWords (words.take start) ++ "::" ++ hexWords (words.drop (start + length))
    else hexWords words

/-- The number below a bound that a text spells in decimal digits, without zeros in front. -/
def decimal? (bound : Nat) (cs : List Char) : Option Nat :=
  if cs.isEmpty || !cs.all Char.isDigit || (cs.length > 1 && cs.head? == some '0') then none
  else
    let n := cs.foldl (fun n c => n * 10 + (c.toNat - '0'.toNat)) 0
    if n < bound then some n else none

/-- The address of four bytes that a text spells. -/
def v4? (cs : List Char) : Option Address :=
  match (Text.split '.' cs).mapM (decimal? 256) with
  | some [a, b, c, d] => some (.v4 ([a, b, c, d].map UInt8.ofNat))
  | _ => none

/-- The word that up to four hexadecimal digits spell. -/
def word? (cs : List Char) : Option UInt16 :=
  if cs.isEmpty || cs.length > 4 then none
  else (cs.mapM Text.Hex.value?).map fun vs => UInt16.ofNat (vs.foldl (fun n v => n * 16 + v) 0)

/-- The words that groups spell; the last group may be an address of four bytes. -/
def words? : List (List Char) → Option (List UInt16)
  | [] => some []
  | [g] =>
    match v4? g with
    | some (.v4 [a, b, c, d]) =>
      some [a.toUInt16 <<< 8 ||| b.toUInt16, c.toUInt16 <<< 8 ||| d.toUInt16]
    | _ => (word? g).map ([·])
  | g :: gs => do return (← word? g) :: (← words? gs)

/-- What stands before and after the first two colons in a row. -/
def splitGap : List Char → Option (List Char × List Char)
  | ':' :: ':' :: r => some ([], r)
  | c :: r => (splitGap r).map fun p => (c :: p.1, p.2)
  | [] => none

/-- The groups of one side of a gap. -/
def groups (cs : List Char) : List (List Char) :=
  if cs.isEmpty then [] else Text.split ':' cs

/-- The address of eight words that a text spells. -/
def v6? (cs : List Char) : Option Address :=
  match splitGap cs with
  | none => do
    let ws ← words? (groups cs)
    if ws.length = 8 then some (.v6 ws) else none
  | some (l, r) => do
    let left ← (groups l).mapM word?
    let right ← words? (groups r)
    let n := left.length + right.length
    if n ≤ 7 then some (.v6 (left ++ List.replicate (8 - n) 0 ++ right)) else none

/-- Whether a text is a number below a bound in decimal digits, with zeros in front or without. -/
def isBelow (bound : Nat) (cs : List Char) : Bool :=
  (decimal? bound (if cs.all (· == '0') then cs.take 1 else cs.dropWhile (· == '0'))).isSome

/-- Whether a text is the number of a port. -/
def isPort (cs : List Char) : Bool := isBelow 65536 cs

/-- The address of eight words that stands in brackets. A percent sign and the number of a network
interface may follow it. -/
def bracketed? (cs : List Char) : Option Address :=
  match Text.splitOnce '%' cs with
  | some (host, zone) => if isBelow 4294967296 zone then v6? host else none
  | none => v6? cs

/-- The address of a socket that is written as an address and a port. -/
def ofSocketText? (s : String) : Option Address :=
  match s.toList with
  | '[' :: r => do
    let (host, port) ← Text.splitOnce ']' r
    match port with
    | ':' :: digits => if isPort digits then bracketed? host else none
    | _ => none
  | cs => do
    let (host, port) ← Text.splitOnce ':' cs
    if isPort port then v4? host else none

end Address
end Gatehouse.Http
