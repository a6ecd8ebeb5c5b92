import Gatehouse.Cache.Memory
import Gatehouse.Store.Call
import Gatehouse.Time.Clock

/-!
Jobs: what the service does, written as the calls it makes.

A job calls storage or the cache, pauses, or reads the wall clock, and goes on with what it gets. A
call may be given a limit; if it has not answered by then, the job goes on as if it had answered
that it timed out. What the calls answer, and when, is not in a job but in the world it runs in.
-/

namespace Gatehouse

/-- A call of storage or of the cache. -/
inductive Effect where
  | store (call : Store.Call)
  | cache (call : Cache.Call)
deriving DecidableEq

namespace Effect

abbrev Error : Effect → Type
  | .store _ => Store.Error
  | .cache _ => Cache.Error

abbrev Answer : Effect → Type
  | .store c => c.Answer
  | .cache c => c.Answer

/-- What comes back from a call. -/
abbrev Result (e : Effect) : Type := Except e.Error e.Answer

def name : Effect → String
  | .store c => c.name
  | .cache c => c.name

/-- The error of a call that is not answered within a limit. -/
def timedOut (limit : Duration) : (e : Effect) → e.Error
  | .store _ => .timeout limit
  | .cache _ => .timeout limit

end Effect

/-- What to do, up to a result. -/
inductive Job (α : Type) : Type where
  | done (a : α)
  | call (e : Effect) (limit : Option Duration) (k : e.Result → Job α)
  | pause (d : Duration) (next : Job α)
  | wall (k : Instant → Job α)

namespace Job

variable {α β : Type}

/-- A job and another one that goes on with its result. -/
def bind : Job α → (α → Job β) → Job β
  | .done a, f => f a
  | .call e limit k, f => .call e limit fun r => (k r).bind f
  | .pause d next, f => .pause d (next.bind f)
  | .wall k, f => .wall fun t => (k t).bind f

instance : Monad Job where
  pure := .done
  bind := .bind

/-- A call of storage. -/
def store (c : Store.Call) : Job (Except Store.Error c.Answer) :=
  .call (.store c) none .done

/-- The reading of the wall clock. -/
def now : Job Instant := .wall .done

@[simp] theorem pure_bind (a : α) (f : α → Job β) : Job.bind (.done a) f = f a := rfl

@[simp] theorem bind_done (j : Job α) : j.bind .done = j := by
  induction j with
  | done a => rfl
  | call e limit k ih => simp only [bind]; congr; funext r; exact ih r
  | pause d next ih => simp only [bind, ih]
  | wall k ih => simp only [bind]; congr; funext t; exact ih t

theorem bind_assoc {γ : Type} (j : Job α) (f : α → Job β) (g : β → Job γ) :
    (j.bind f).bind g = j.bind fun a => (f a).bind g := by
  induction j with
  | done a => rfl
  | call e limit k ih => simp only [bind]; congr; funext r; exact ih r
  | pause d next ih => simp only [bind, ih]
  | wall k ih => simp only [bind]; congr; funext t; exact ih t

end Job
end Gatehouse
