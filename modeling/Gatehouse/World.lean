import Gatehouse.Job
import Gatehouse.Store.Memory

/-!
The world that jobs run in: a store and a cache in memory, a script of mishaps that befall their
calls, and two clocks.

A job runs until it has to wait, and the clock then jumps to the first timer. A call that is late
takes effect when it arrives, and not at all if its limit comes first; at the same tick the arrival
wins. A whole job may have a deadline, which wins over everything that comes at its tick. Jobs that
run side by side and can go on at the same tick do so in the order in which they came to wait.
-/

namespace Gatehouse

/-- What may befall a call. A failed, lost or missed call never reaches the data. -/
inductive Mishap where
  | store (error : Store.Error)
  | cache (error : Cache.Error)
  | miss
  | hang
  | delay (d : Duration)
deriving DecidableEq, Repr

/-- The mishaps to come, by the name of the call. `none` lets a call pass. -/
abbrev Script := Table String (List (Option Mishap))

/-- The next mishap of a name, and the script after it. -/
def Script.next (s : Script) (name : String) : Option Mishap × Script :=
  match s.find? name with
  | some (m :: ms) => (m, s.insert name ms)
  | _ => (none, s)

/-- What answers calls. -/
structure Backend where
  store : Store.Memory
  cache : Cache.Memory
  script : Script
  calls : Table String Nat
  lookups : Nat

namespace Backend

/-- A store without mishaps and with an empty cache. -/
def ofStore (store : Store.Memory) : Backend := ⟨store, .empty, .empty, .empty, 0⟩

instance : Inhabited Backend := ⟨ofStore .seeded⟩

/-- A call is made: it is counted, and its mishap is taken from the script. -/
def dial (b : Backend) (name : String) : Option Mishap × Backend :=
  let (m, script) := b.script.next name
  (m, { b with script, calls := b.calls.insert name ((b.calls.find? name).getD 0 + 1) })

/-- A call takes effect, at an instant of the wall clock and a moment of the running one. -/
def perform (b : Backend) (wall : Instant) (now : Nat) : (e : Effect) → e.Result × Backend
  | .store c =>
    let (r, store) := b.store.perform wall c
    let looked := match c with
      | .userById _ => 1
      | _ => 0
    (r, { b with store, lookups := b.lookups + looked })
  | .cache c =>
    let (r, cache) := Cache.Memory.perform b.cache now c
    (r, { b with cache })

end Backend

/-- How a call is answered: at once with a given result, at once by the data, after a span by the
data, or never. -/
inductive Reply (e : Effect) where
  | given (r : e.Result)
  | prompt
  | late (d : Duration)
  | never

/-- The reply to a call under a mishap. One that does not fit the call lets it pass. -/
def Reply.under : Option Mishap → (e : Effect) → Reply e
  | some (.store error), .store _ => .given (.error error)
  | some (.cache error), .cache _ => .given (.error error)
  | some .miss, .cache (.get _) => .given (.ok none)
  | some .hang, _ => .never
  | some (.delay d), _ => .late d
  | _, _ => .prompt

/-- Clocks, and what answers calls. -/
structure World where
  clock : Clock
  wall : Nat → Instant
  backend : Backend

namespace World

/-- The reading of the wall clock. -/
def today (w : World) : Instant := w.wall w.clock.now

/-- A call is made. -/
def dial (w : World) (e : Effect) : Reply e × World :=
  let (m, backend) := w.backend.dial e.name
  (.under m e, { w with backend })

/-- A call takes effect. -/
def perform (w : World) (e : Effect) : e.Result × World :=
  let (r, backend) := w.backend.perform w.today w.clock.now e
  (r, { w with backend })

/-- The world when its clock has jumped ahead to a tick. -/
def reach (w : World) (tick : Nat) : World := { w with clock := w.clock.reach tick }

/-- The world a span later. -/
def advance (w : World) (d : Duration) : World := { w with clock := w.clock.advance d }

end World

/-! ### One job -/

/-- What ends the wait for a call: its arrival or its limit. -/
inductive Wake where
  | arrival (tick : Nat)
  | limit (tick : Nat)
deriving DecidableEq, Repr

def Wake.tick : Wake → Nat
  | .arrival t | .limit t => t

/-- What ends a wait first; an arrival wins over a limit at the same tick. -/
def Wake.first : Option Nat → Option Nat → Option Wake
  | some a, some l => if a ≤ l then some (.arrival a) else some (.limit l)
  | some a, none => some (.arrival a)
  | none, some l => some (.limit l)
  | none, none => none

/-- Whether a deadline is met at a tick. -/
def isOver (deadline : Option Nat) (tick : Nat) : Bool :=
  match deadline with
  | some d => d ≤ tick
  | none => false

/-- The world in which a job is given up: at its deadline, or where it hangs without one. -/
def World.giveUp (w : World) (deadline : Option Nat) : World :=
  match deadline with
  | some d => w.reach d
  | none => w

/-- Runs a job, up to a deadline if there is one: its result, if it comes to one, and the world after
it. -/
def Job.run {α : Type} (deadline : Option Nat) : Job α → World → Option α × World
  | .done a, w => (some a, w)
  | .wall k, w => (k w.today).run deadline w
  | .pause d next, w =>
    let tick := w.clock.timer d
    if isOver deadline tick then (none, w.giveUp deadline)
    else next.run deadline (w.reach tick)
  | .call e limit k, w =>
    let (reply, w) := w.dial e
    let wait (arrival : Option Nat) : Option α × World :=
      match Wake.first arrival (limit.map w.clock.timer) with
      | none => (none, w.giveUp deadline)
      | some wake =>
        if isOver deadline wake.tick then (none, w.giveUp deadline)
        else
          let w := w.reach wake.tick
          match wake with
          | .arrival _ =>
            let (r, w) := w.perform e
            (k r).run deadline w
          | .limit _ => (k (.error (e.timedOut (limit.getD default)))).run deadline w
    match reply with
    | .given r => (k r).run deadline w
    | .prompt =>
      let (r, w) := w.perform e
      (k r).run deadline w
    | .late d => wait (some (w.clock.timer d))
    | .never => wait none

/-! ### Jobs side by side -/

/-- A job that is under way: finished, or waiting for a call or for a tick. -/
inductive Thread (α : Type) where
  | finished (a : α)
  | calling (e : Effect) (k : e.Result → Job α) (limit : Duration) (arrival deadline : Option Nat)
  | sleeping (tick : Nat) (next : Job α)

namespace Thread

variable {α : Type}

/-- Lets a job go on until it has to wait. -/
def proceed : Job α → World → Thread α × World
  | .done a, w => (.finished a, w)
  | .wall k, w => proceed (k w.today) w
  | .pause d next, w =>
    let tick := w.clock.timer d
    if tick ≤ w.clock.tick then proceed next w else (.sleeping tick next, w)
  | .call e limit k, w =>
    let (reply, w) := w.dial e
    let wait (arrival : Option Nat) : Thread α × World :=
      let bound := limit.map w.clock.timer
      match Wake.first arrival bound with
      | some (.arrival t) =>
        if t ≤ w.clock.tick then
          let (r, w) := w.perform e
          proceed (k r) w
        else (.calling e k (limit.getD default) arrival bound, w)
      | some (.limit t) =>
        if t ≤ w.clock.tick then proceed (k (.error (e.timedOut (limit.getD default)))) w
        else (.calling e k (limit.getD default) arrival bound, w)
      | none => (.calling e k (limit.getD default) none none, w)
    match reply with
    | .given r => proceed (k r) w
    | .prompt =>
      let (r, w) := w.perform e
      proceed (k r) w
    | .late d => wait (some (w.clock.timer d))
    | .never => wait none

/-- The first tick at which a job can go on. -/
def wake? : Thread α → Option Nat
  | .finished _ => none
  | .sleeping tick _ => some tick
  | .calling _ _ _ arrival deadline => (Wake.first arrival deadline).map Wake.tick

/-- Lets a job go on, if what it waits for has come. -/
def resume (t : Thread α) (w : World) : Thread α × World :=
  match t with
  | .finished a => (.finished a, w)
  | .sleeping tick next => if tick ≤ w.clock.tick then proceed next w else (.sleeping tick next, w)
  | .calling e k limit arrival deadline =>
    match Wake.first arrival deadline with
    | some (.arrival tick) =>
      if tick ≤ w.clock.tick then
        let (r, w) := w.perform e
        proceed (k r) w
      else (.calling e k limit arrival deadline, w)
    | some (.limit tick) =>
      if tick ≤ w.clock.tick then proceed (k (.error (e.timedOut limit))) w
      else (.calling e k limit arrival deadline, w)
    | none => (.calling e k limit arrival deadline, w)

def result? : Thread α → Option α
  | .finished a => some a
  | _ => none

/-- Jobs that are under way, each with its place among all of them. They stand in the order in which
they came to wait. -/
abbrev Queue (α : Type) := List (Nat × Thread α)

/-- Whether a job can go on at a tick. -/
def isDue (tick : Nat) (t : Thread α) : Bool := t.wake?.any (· ≤ tick)

/-- Lets jobs go on one after the other. -/
def resumeAll : Queue α → World → Queue α × World
  | [], w => ([], w)
  | (i, t) :: ts, w =>
    let (t, w) := resume t w
    let (ts, w) := resumeAll ts w
    ((i, t) :: ts, w)

/-- Lets the jobs go on that can at the next tick at which any of them can, those that have waited
longest first. They line up again at the end. This is repeated until no job waits for a tick, or the
fuel is used up. -/
def settle : Nat → Queue α → World → Queue α × World
  | 0, q, w => (q, w)
  | fuel + 1, q, w =>
    match (q.filterMap fun p => wake? p.2).min? with
    | none => (q, w)
    | some tick =>
      let w := w.reach tick
      let (due, waiting) := q.partition fun p => isDue tick p.2
      let (due, w) := resumeAll due w
      settle fuel (waiting ++ due) w

/-- Starts jobs in their order; they are counted from a given place on. -/
def startAll (place : Nat) : List (Job α) → World → Queue α × World
  | [], w => ([], w)
  | j :: js, w =>
    let (t, w) := proceed j w
    let (q, w) := startAll (place + 1) js w
    ((place, t) :: q, w)

/-- Starts jobs in their order and runs them side by side, each for `rounds` waits at most. -/
def runAll (rounds : Nat) (jobs : List (Job α)) (w : World) : List (Option α) × World :=
  let (q, w) := startAll 0 jobs w
  let (q, w) := settle (rounds * jobs.length) q w
  ((List.range jobs.length).map fun i => (q.lookup i).bind result?, w)

end Thread
end Gatehouse
