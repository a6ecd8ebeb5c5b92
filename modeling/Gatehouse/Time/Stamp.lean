import Gatehouse.Text.Blank
import Gatehouse.Time.Instant

/-!
The text of an instant.

Instants are written in UTC with a `Z`, and with none, three, six or nine digits of a second,
whichever is the least that says all. Reading is lenient: blanks may stand between the parts, digits
may be missing where a number is short, an offset from UTC may follow, and digits beyond the ninth
are dropped.
-/

namespace Gatehouse.Stamp

/-! ### Writing -/

/-- The digits of a year: four of them, with a sign if they do not suffice. -/
def yearText (y : Int) : List Char :=
  if 0 ≤ y ∧ y ≤ 9999 then Duration.padLeft 4 y.toNat
  else (if y < 0 then '-' else '+') :: Duration.padLeft 4 y.natAbs

/-- The fraction of a second, in groups of three digits. -/
def fraction (nanos : Nat) : List Char :=
  if nanos = 0 then []
  else if nanos % 1000000 = 0 then '.' :: Duration.padLeft 3 (nanos / 1000000)
  else if nanos % 1000 = 0 then '.' :: Duration.padLeft 6 (nanos / 1000)
  else '.' :: Duration.padLeft 9 nanos

/-- The characters of an instant. -/
def chars (t : Instant) : List Char :=
  let date := Calendar.Date.ofDays (t.secs / 86400)
  let s := (t.secs % 86400).toNat
  let leap := 1000000000 ≤ t.nanos
  let second := s % 60 + if leap then 1 else 0
  let nanos := if leap then t.nanos - 1000000000 else t.nanos
  yearText date.year ++ '-' :: Duration.padLeft 2 date.month ++ '-' :: Duration.padLeft 2 date.day ++
    'T' :: Duration.padLeft 2 (s / 3600) ++ ':' :: Duration.padLeft 2 (s / 60 % 60) ++
    ':' :: Duration.padLeft 2 second ++ fraction nanos ++ ['Z']

/-- An instant as text. -/
def write (t : Instant) : String :=
  String.ofList (chars t)

/-! ### Reading -/

/-- What is read, and the characters after it. -/
abbrev Reader (α : Type) := List Char → Option (α × List Char)

/-- The number that digits spell. -/
def number (ds : List Char) : Nat :=
  ds.foldl (fun n c => n * 10 + (c.toNat - '0'.toNat)) 0

/-- A number of at least one digit and at most `width`, or of any length without a width, after
blanks. -/
def digits (width : Option Nat) : Reader Nat := fun cs =>
  let cs := cs.dropWhile Text.isBlank
  let run := cs.takeWhile Char.isDigit
  let ds := match width with
    | some w => run.take w
    | none => run
  if ds.isEmpty then none else some (number ds, cs.drop ds.length)

/-- A year: four digits at most, or any number of them after a sign. -/
def year : Reader Int := fun cs =>
  match cs.dropWhile Text.isBlank with
  | '-' :: r =>
    if (r.takeWhile Char.isDigit).isEmpty then none
    else (digits none r).map fun p => (-(p.1 : Int), p.2)
  | '+' :: r =>
    if (r.takeWhile Char.isDigit).isEmpty then none
    else (digits none r).map fun p => ((p.1 : Int), p.2)
  | r => (digits (some 4) r).map fun p => ((p.1 : Int), p.2)

/-- A fixed character after blanks. -/
def mark (m : Char) (cs : List Char) : Option (List Char) :=
  match cs.dropWhile Text.isBlank with
  | c :: r => if c = m then some r else none
  | [] => none

/-- The nanoseconds of a fraction, if one is there: its first nine digits count. -/
def nanos : Reader Nat
  | '.' :: cs =>
    let run := cs.takeWhile Char.isDigit
    if run.isEmpty then none
    else
      let ds := run.take 9
      some (number ds * Nat.pow 10 (9 - ds.length), cs.drop run.length)
  | cs => some (0, cs)

/-- Exactly two digits, the first of them below `bound`. -/
def twoDigits (bound : Char) : Reader Nat
  | a :: b :: r =>
    if a.isDigit && b.isDigit && a < bound then some (number [a, b], r) else none
  | _ => none

/-- An offset from UTC in seconds: `Z`, the word UTC, or a sign with hours and minutes. -/
def offset : Reader Int := fun cs =>
  match cs with
  | 'Z' :: r | 'z' :: r => some (0, r)
  | a :: b :: c :: r =>
    if [a, b, c].map Char.toLower == ['u', 't', 'c'] then some (0, r)
    else if a == '+' || a == '-' || a == '\u2212' then do
      let (h, r) ← twoDigits ':' (b :: c :: r)
      let (m, r) ← twoDigits '6' (r.dropWhile fun x => x == ':' || Text.isBlank x)
      let s : Int := h * 3600 + m * 60
      return (if a == '+' then s else -s, r)
    else none
  | _ => none

/-- The parts of a time as they are written. -/
structure Parts where
  date : Calendar.Date
  hour : Nat
  minute : Nat
  second : Nat
  nanos : Nat
  offset : Int

/-- The parts of a text that is a time and nothing else. -/
def parts? (cs : List Char) : Option Parts := do
  let (y, cs) ← year cs
  let cs ← mark '-' cs
  let (mo, cs) ← digits (some 2) cs
  let cs ← mark '-' cs
  let (d, cs) ← digits (some 2) cs
  let cs ← match cs with
    | 'T' :: r | 't' :: r | ' ' :: r => some r
    | _ => none
  let (h, cs) ← digits (some 2) cs
  let cs ← mark ':' cs
  let (mi, cs) ← digits (some 2) cs
  let cs ← mark ':' cs
  let (s, cs) ← digits (some 2) cs
  let (n, cs) ← nanos cs
  let (off, cs) ← offset (cs.dropWhile Text.isBlank)
  if (cs.dropWhile Text.isBlank).isEmpty then return ⟨⟨y, mo, d⟩, h, mi, s, n, off⟩ else none

/-- The instant that parts denote, if they denote one. A sixtieth second is a leap second. -/
def Parts.instant? (p : Parts) : Option Instant :=
  if p.date.exists && p.date.year ≥ -262143 && p.date.year ≤ 262142 && p.hour < 24 && p.minute < 60 &&
      p.second ≤ 60 && p.offset.natAbs < 86400 then
    let second := if p.second = 60 then 59 else p.second
    let nanos := if p.second = 60 then p.nanos + 1000000000 else p.nanos
    Instant.ofParts?
      (p.date.toDays * 86400 + (p.hour * 3600 + p.minute * 60 + second : Nat) - p.offset) nanos
  else none

/-- The instant that a text denotes. -/
def read? (s : String) : Option Instant :=
  (parts? s.toList).bind Parts.instant?

end Gatehouse.Stamp
