import Gatehouse.Table
import Gatehouse.Time.Clock

/-!
Admission of requests, counted per client in windows of fixed length.

The first request of a client opens a window; a window admits up to the limit, and the first request
after its end opens the next one. Windows that have ended are forgotten by sweeping, which changes
no decision.
-/

namespace Gatehouse

/-- How requests are limited. -/
structure Limiter.Config where
  requests : Nat
  window : Duration
  enabled : Bool
deriving DecidableEq, Repr

/-- Twenty requests in five seconds. -/
def Limiter.Config.default : Limiter.Config := ⟨20, Duration.ofSecs 5, true⟩

/-- What happens to a request. -/
inductive Limiter.Decision where
  | allowed
  | limited (retryAfter : Duration)
deriving DecidableEq, Repr

/-- A client's window: when it was opened and how many requests it has admitted. -/
structure Limiter.Window where
  started : Nat
  count : Nat
deriving DecidableEq, Repr

/-- A limiter in fixed windows. -/
structure Limiter where
  limit : Nat
  window : Duration
  windows : Table String Limiter.Window

namespace Limiter

/-- A limiter that has seen no client. -/
def new (limit : Nat) (window : Duration) : Limiter := ⟨limit, window, .empty⟩

/-- The window in which a request counts at a moment: the one that is open, or a new one. -/
def Window.current (length : Duration) (now : Nat) : Option Window → Window
  | some w => if now - w.started ≥ length.nanos then ⟨now, 0⟩ else w
  | none => ⟨now, 0⟩

/-- A request in a window: the decision and the window after it. -/
def Window.serve (limit : Nat) (length : Duration) (now : Nat) (w : Window) : Decision × Window :=
  if w.count < limit then (.allowed, { w with count := w.count + 1 })
  else (.limited ⟨length.nanos - (now - w.started)⟩, w)

variable (l : Limiter)

/-- The decision on a request of a client that reads a moment from the clock. -/
def check (now : Nat) (client : String) : Decision × Limiter :=
  let (d, w) := (Window.current l.window now (l.windows.find? client)).serve l.limit l.window now
  (d, { l with windows := l.windows.insert client w })

/-- Forgets the windows that have ended. -/
def sweep (now : Nat) : Limiter :=
  { l with windows := l.windows.filter fun _ w => now - w.started < l.window.nanos }

/-- The number of clients that are remembered. -/
def tracked : Nat := l.windows.size

end Limiter

/-- Sweeps a limiter again and again. -/
structure Sweeper where
  period : Duration
deriving DecidableEq, Repr

namespace Sweeper

/-- A sweeper with a period, but not more often than once a second. -/
def every (d : Duration) : Sweeper := ⟨if d < Duration.ofSecs 1 then Duration.ofSecs 1 else d⟩

/-- The number of rounds that are due when the clock started at zero. -/
def rounds (s : Sweeper) (c : Clock) : Nat := c.tick * c.grain / s.period.nanos

/-- The limiter after the rounds that came due between two readings of the clock. -/
def catchUp (s : Sweeper) (since now : Clock) (l : Limiter) : Limiter :=
  if s.rounds since < s.rounds now then l.sweep now.now else l

end Sweeper

/-- Who decides on requests: a limiter, or nobody, and then all are admitted. -/
inductive Admission where
  | everyone
  | windows (limiter : Limiter)

namespace Admission

/-- The admission that a configuration asks for. -/
def ofConfig (c : Limiter.Config) : Admission :=
  if c.enabled then .windows (.new c.requests c.window) else .everyone

/-- The decision on a request of a client at a moment. -/
def check (a : Admission) (now : Nat) (client : String) : Limiter.Decision × Admission :=
  match a with
  | .everyone => (.allowed, .everyone)
  | .windows l =>
    let (d, l) := l.check now client
    (d, .windows l)

end Admission
end Gatehouse
