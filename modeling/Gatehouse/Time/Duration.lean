/-!
Spans of time, to the nanosecond, and their text.
-/

namespace Gatehouse

/-- A span of time, counted in nanoseconds. -/
structure Duration where
  nanos : Nat
deriving DecidableEq, Repr, Inhabited

namespace Duration

/-- The nanoseconds of a second. -/
def perSecond : Nat := 1000000000

/-- The nanoseconds of a millisecond. -/
def perMilli : Nat := 1000000

def ofSecs (s : Nat) : Duration := ⟨s * perSecond⟩
def ofMillis (ms : Nat) : Duration := ⟨ms * perMilli⟩

/-- A whole number of seconds and the nanoseconds beyond it. -/
def ofParts (secs nanos : Nat) : Duration := ⟨secs * perSecond + nanos⟩

/-- The longest span: 64 bits of seconds and as many nanoseconds as fit beside them. -/
def max : Duration := ofParts 0xffffffffffffffff 999999999

/-- The whole seconds of a span. -/
def secs (d : Duration) : Nat := d.nanos / perSecond

/-- The nanoseconds beyond the whole seconds. -/
def subsec (d : Duration) : Nat := d.nanos % perSecond

/-- The whole milliseconds of a span. -/
def millis (d : Duration) : Nat := d.nanos / perMilli

instance : LE Duration := ⟨fun a b => a.nanos ≤ b.nanos⟩
instance : LT Duration := ⟨fun a b => a.nanos < b.nanos⟩
instance (a b : Duration) : Decidable (a ≤ b) := inferInstanceAs (Decidable (a.nanos ≤ b.nanos))
instance (a b : Duration) : Decidable (a < b) := inferInstanceAs (Decidable (a.nanos < b.nanos))

/-- Digits of a number, filled up with zeros to a width. -/
def padLeft (width n : Nat) : List Char :=
  let ds := Nat.toDigits 10 n
  List.replicate (width - ds.length) '0' ++ ds

/-- A fraction with the given number of places, without the zeros at its end. -/
def fractionText (places n : Nat) : String :=
  if n = 0 then ""
  else "." ++ String.ofList ((padLeft places n).reverse.dropWhile (· == '0')).reverse

/-- A span in the largest of the units s, ms, µs and ns in which its whole part is not zero, with as
many decimals as it needs. -/
def text (d : Duration) : String :=
  let inUnit (places : Nat) (unit : String) :=
    toString (d.nanos / Nat.pow 10 places) ++ fractionText places (d.nanos % Nat.pow 10 places) ++ unit
  if d.nanos ≥ 1000000000 then inUnit 9 "s"
  else if d.nanos ≥ 1000000 then inUnit 6 "ms"
  else if d.nanos ≥ 1000 then inUnit 3 "µs"
  else inUnit 0 "ns"

end Duration
end Gatehouse
