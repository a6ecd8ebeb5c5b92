import Gatehouse.Time.Duration

/-!
The running clock, which never goes back, and its timers.

Moments are counted in nanoseconds from the start. A timer fires with the first tick at or after its
deadline; ticks come at multiples of the grain, and when everything waits the clock jumps ahead by
whole grains. With a grain of one nanosecond timers are exact.
-/

namespace Gatehouse

/-- The running clock. -/
structure Clock where
  now : Nat
  grain : Nat
  grain_pos : 0 < grain

namespace Clock

/-- A clock at its start with ticks a millisecond apart. -/
def start : Clock := ⟨0, Duration.perMilli, by decide⟩

instance : Inhabited Clock := ⟨start⟩

/-- The last moment that can be told. -/
def horizon : Nat := (0x8000000000000000 - 0x100000) * Duration.perSecond

/-- The moment a span after another one, if it can be told. -/
def later? (now : Nat) (d : Duration) : Option Nat :=
  if now + d.nanos ≤ horizon then some (now + d.nanos) else none

/-- How far away a deadline is that cannot be told: thirty years. -/
def farAway : Duration := Duration.ofSecs (86400 * 365 * 30)

variable (c : Clock)

/-- The clock a span later. -/
def advance (d : Duration) : Clock := { c with now := c.now + d.nanos }

/-- The tick that the clock has reached. -/
def tick : Nat := c.now / c.grain

/-- The tick with which a timer fires that is set for a span from now. -/
def timer (d : Duration) : Nat :=
  ((later? c.now d).getD (c.now + farAway.nanos) + (c.grain - 1)) / c.grain

/-- The clock when it has jumped ahead to a tick. -/
def reach (t : Nat) : Clock := { c with now := c.now + (t - c.tick) * c.grain }

/-- The whole milliseconds between two readings. -/
def millisSince (since : Clock) : Nat := (c.now - since.now) / Duration.perMilli

end Clock
end Gatehouse
