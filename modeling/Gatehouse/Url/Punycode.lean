/-!
Punycode: labels of domain names whose characters are written in ASCII.

A label holds its ASCII characters as they are, then a hyphen, then numbers in base 36 that say
which other characters are to be inserted and where. Each number ends with its first digit below a
threshold, and the thresholds follow the size of the numbers so far.
-/

namespace Gatehouse.Url.Punycode

/-- The value of a digit. -/
def digit? (c : Char) : Option Nat :=
  if c.isLower then some (c.toNat - 'a'.toNat)
  else if c.isUpper then some (c.toNat - 'A'.toNat)
  else if c.isDigit then some (c.toNat - '0'.toNat + 26)
  else none

/-- The digit in place `k`, counted in steps of 36, below which a number ends. -/
def threshold (k bias : Nat) : Nat :=
  min 26 (max 1 (k - bias))

/-- A number scaled down until the thresholds can follow it, and the places that this takes. -/
def scale (delta : Nat) : Nat × Nat :=
  if 455 < delta then
    let p := scale (delta / 35)
    (p.1, p.2 + 36)
  else (delta, 0)
termination_by delta
decreasing_by exact Nat.div_lt_self (by omega) (by omega)

/-- The bias behind a number, given how many characters there are then. -/
def adapt (delta count : Nat) (first : Bool) : Nat :=
  let d := delta / if first then 700 else 2
  let (d, k) := scale (d + d / count)
  k + 36 * d / (d + 38)

/-- The number at the front of the input, and what follows it. -/
def number (bias : Nat) : List Char → Nat → Nat → Option (Nat × List Char)
  | [], _, _ => none
  | c :: r, k, weight => do
    let d ← digit? c
    let t := threshold k bias
    if d < t then return (d * weight, r)
    let (n, r) ← number bias r (k + 36) (weight * (36 - t))
    return (d * weight + n, r)

/-- Inserts the characters that the numbers stand for. `place` is where the next one can go at the
earliest, and a number counts on from there, through all places for one character and then for the
next. No number is without a digit, so the length of the input is fuel enough. -/
def insertions : Nat → Nat → Nat → Nat → List Char → List Char → Option (List Char)
  | _, _, _, _, done, [] => some done
  | 0, _, _, _, _, _ => none
  | fuel + 1, bias, code, place, done, cs => do
    let (delta, r) ← number bias cs 36 1
    let count := done.length + 1
    let code := code + (place + delta) / count
    let here := (place + delta) % count
    if code.isValidChar then
      insertions fuel (adapt delta count (place == 0)) code (here + 1)
        (done.take here ++ Char.ofNat code :: done.drop here) r
    else none

/-- The characters that a label stands for. A hyphen at its start has no characters in front of it
and belongs to the numbers, where it is no digit. -/
def decode? (cs : List Char) : Option (List Char) :=
  let behind := (cs.reverse.takeWhile (· != '-')).reverse
  let coded := if behind.length + 1 = cs.length then cs else behind
  let plain := (cs.take (cs.length - behind.length)).dropLast
  if plain.all (·.toNat < 0x80) then insertions coded.length 72 128 0 plain coded else none

end Gatehouse.Url.Punycode
