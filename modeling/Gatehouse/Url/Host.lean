import Gatehouse.Http.Address
import Gatehouse.Http.Percent
import Gatehouse.Url.Domain

/-!
Hosts in URLs: addresses and names.

An address of eight words stands in brackets. Where the scheme has a network of its own, every other
host is a domain name, unless it ends in a number: then it has to be an address of four bytes, which
may be written with fewer numbers and in three bases. Elsewhere a host is any text without the
characters that have a meaning in URLs.
-/

namespace Gatehouse.Url

/-- A host. -/
inductive Host where
  | name (cs : List Char)
  | address (a : Http.Address)
deriving DecidableEq, Repr

namespace Host

/-- The number that digits spell in a base. -/
def inBase (base : Nat) (cs : List Char) : Option Nat :=
  (cs.mapM Text.Hex.value?).bind fun vs =>
    if vs.all (· < base) then some (vs.foldl (fun n v => n * base + v) 0) else none

/-- The number that a part of an address spells: in hexadecimal behind `0x`, in octal behind another
zero, and else in decimal. Nothing behind `0x` is zero. -/
def number? : List Char → Option Nat
  | [] => none
  | '0' :: 'x' :: cs => inBase 16 cs
  | '0' :: c :: cs => inBase 8 (c :: cs)
  | cs => inBase 10 cs

/-- The parts of a name. A full stop at its end does not count. -/
def parts (name : List Char) : List (List Char) :=
  let ps := Text.split '.' name
  if ps.getLast? = some [] then ps.dropLast else ps

/-- Whether a name ends in a number. Digits are one even if they are none in octal. -/
def endsInNumber (name : List Char) : Bool :=
  match (parts name).getLast? with
  | none => false
  | some p => (!p.isEmpty && p.all Char.isDigit) || (number? p).isSome

/-- The address that numbers stand for: each of them is a byte, and the last one fills the bytes
that are left. -/
def ofNumbers? (ns : List Nat) : Option Http.Address :=
  match ns.reverse with
  | [] => none
  | last :: front =>
    if front.length < 4 ∧ front.all (· < 256) ∧ last < Nat.pow 256 (4 - front.length) then
      some (.v4 (front.reverse.map UInt8.ofNat ++ Bytes.ofNatBE (4 - front.length) last))
    else none

/-- The address of four bytes that a name stands for. -/
def v4? (name : List Char) : Option Http.Address :=
  ((parts name).mapM number?).bind ofNumbers?

/-- The address of eight words between two brackets; the first of them is given apart. -/
def bracketed? (cs : List Char) : Option Host :=
  match cs.reverse with
  | ']' :: inner => (Http.Address.v6? inner.reverse).map .address
  | _ => none

/-- Whether a character may stand in a host that is no domain name. -/
def isOpaqueChar (c : Char) : Bool := !"\x00\t\n\r #/:<>?@[\\]^|".toList.contains c

/-- The host that a text stands for where the scheme has no network of its own. -/
def opaque? : List Char → Option Host
  | '[' :: cs => bracketed? cs
  | cs => if cs.all isOpaqueChar then some (.name cs) else none

/-- The bytes of a text in which percent signs stand for bytes. -/
def percentDecode (cs : List Char) : Bytes :=
  Http.Percent.decode (Bytes.toChars (Bytes.utf8 (String.ofList cs)))

/-- The host that a text stands for on the network. -/
def onNetwork? : List Char → Option Host
  | '[' :: cs => bracketed? cs
  | cs => do
    let name ← Domain.ofChars? (Text.Lossy.chars (percentDecode cs))
    if endsInNumber name then (v4? name).map .address else some (.name name)

end Host
end Gatehouse.Url
