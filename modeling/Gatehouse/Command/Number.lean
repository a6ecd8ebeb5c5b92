/-!
Whole numbers on the command line.

A number is read digit by digit, and the first thing that is wrong with it is reported: a character
that is no digit, or the digit with which it grows too large. Only then is its range checked.
-/

namespace Gatehouse.Command

/-- The numbers that an option takes: signed ones between two bounds, or unsigned ones from a bound
on and perhaps up to another one. -/
inductive Range where
  | signed (lo hi : Int)
  | unsigned (lo : Nat) (hi : Option Nat)
  | anyUnsigned
deriving DecidableEq, Repr

/-- Why a number is refused. -/
inductive NumberFault where
  | empty
  | invalidDigit
  | tooLarge
  | tooSmall
  | outside (n : Int) (range : Range)
deriving DecidableEq, Repr

/-- The largest unsigned number of 64 bits. -/
def maxUnsigned : Nat := 0xffffffffffffffff

/-- A range, as it is shown. Unsigned ranges without an end name the largest number and do not
include it. -/
def Range.text : Range → String
  | .signed lo hi => toString lo ++ "..=" ++ toString hi
  | .unsigned lo (some hi) => toString lo ++ "..=" ++ toString hi
  | .unsigned lo none => toString lo ++ ".." ++ toString maxUnsigned
  | .anyUnsigned => toString 0 ++ ".." ++ toString maxUnsigned

def NumberFault.message : NumberFault → String
  | .empty => "cannot parse integer from empty string"
  | .invalidDigit => "invalid digit found in string"
  | .tooLarge => "number too large to fit in target type"
  | .tooSmall => "number too small to fit in target type"
  | .outside n range => toString n ++ " is not in " ++ range.text

/-- Whether a number lies in a range. -/
def Range.contains : Range → Int → Bool
  | .signed lo hi, n => lo ≤ n && n ≤ hi
  | .unsigned lo hi, n => lo ≤ n && hi.all fun h => n ≤ h
  | .anyUnsigned, _ => true

/-- The number that digits spell behind a number already read, up to a limit. -/
def digits (limit : Nat) (overflow : NumberFault) : Nat → List Char → Except NumberFault Nat
  | n, [] => .ok n
  | n, c :: r =>
    if !c.isDigit then .error .invalidDigit
    else
      let n := n * 10 + (c.toNat - '0'.toNat)
      if n > limit then .error overflow else digits limit overflow n r

/-- The digits of a number, of which there has to be one at least. -/
def magnitude (limit : Nat) (overflow : NumberFault) (cs : List Char) : Except NumberFault Nat :=
  if cs.isEmpty then .error .invalidDigit else digits limit overflow 0 cs

/-- The number that a text spells, with a plus sign in front or without, and if `negative`, also with
a minus sign. -/
def readNumber (negative : Bool) (limit : Nat) (text : String) : Except NumberFault Int :=
  match text.toList with
  | [] => .error .empty
  | '+' :: r => (magnitude limit .tooLarge r).map fun n => (n : Int)
  | '-' :: r =>
    if negative then (magnitude (limit + 1) .tooSmall r).map fun n => -(n : Int)
    else .error .invalidDigit
  | cs => (magnitude limit .tooLarge cs).map fun n => (n : Int)

/-- The number of a range that a text spells. -/
def Range.read (range : Range) (text : String) : Except NumberFault Int :=
  let n := match range with
    | .signed _ _ => readNumber true 0x7fffffffffffffff text
    | _ => readNumber false maxUnsigned text
  match n with
  | .error f => .error f
  | .ok n => if range.contains n then .ok n else .error (.outside n range)

/-- What is read lies in the range. -/
theorem Range.contains_of_read {range : Range} {text : String} {n : Int}
    (h : range.read text = .ok n) : range.contains n = true := by
  unfold Range.read at h
  grind

end Gatehouse.Command
