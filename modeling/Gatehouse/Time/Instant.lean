import Gatehouse.Time.Calendar
import Gatehouse.Time.Duration

/-!
Instants of the wall clock, in UTC.

An instant is a count of seconds from 1970 and the nanoseconds into that second. A second that ends
a minute may be followed by a leap second, which is written as nanoseconds of a thousand million and
more. Instants lie in the years -262143 to 262142.
-/

namespace Gatehouse

namespace Instant

/-- The first second that can be told. -/
def minSecs : Int := (Calendar.Date.toDays ⟨-262143, 1, 1⟩) * 86400

/-- The last second that can be told. -/
def maxSecs : Int := (Calendar.Date.toDays ⟨262142, 12, 31⟩) * 86400 + 86399

end Instant

/-- An instant of the wall clock. -/
structure Instant where
  secs : Int
  nanos : Nat
  lower : Instant.minSecs ≤ secs
  upper : secs ≤ Instant.maxSecs
  nanos_lt : nanos < 2000000000
  leap : 1000000000 ≤ nanos → secs % 60 = 59
deriving DecidableEq

namespace Instant

/-- The instant with the given parts, if there is one. -/
def ofParts? (secs : Int) (nanos : Nat) : Option Instant :=
  if h : minSecs ≤ secs ∧ secs ≤ maxSecs ∧ nanos < 2000000000 ∧
      (1000000000 ≤ nanos → secs % 60 = 59) then
    some ⟨secs, nanos, h.1, h.2.1, h.2.2.1, h.2.2.2⟩
  else none

/-- The beginning of 1970. -/
def epoch : Instant :=
  ⟨0, 0, by decide, by decide, by decide, by decide⟩

instance : Inhabited Instant := ⟨epoch⟩

/-- Whether one instant lies before another. -/
def before (a b : Instant) : Bool :=
  a.secs < b.secs || (a.secs == b.secs && a.nanos < b.nanos)

/-- The longest span that an instant can be moved by: 63 bits of milliseconds. -/
def maxShift : Duration := Duration.ofMillis 0x7fffffffffffffff

/-- The instant that lies a span after another one; `none` if the span is too long or the result
cannot be told. A leap second that is left behind does not count. -/
def after? (t : Instant) (d : Duration) : Option Instant :=
  if maxShift < d then none
  else if t.nanos + d.nanos < 2000000000 ∧ 1000000000 ≤ t.nanos then
    ofParts? t.secs (t.nanos + d.nanos)
  else
    let n := t.nanos % 1000000000 + d.nanos
    ofParts? (t.secs + (n / 1000000000 : Nat)) (n % 1000000000)

end Instant
end Gatehouse
