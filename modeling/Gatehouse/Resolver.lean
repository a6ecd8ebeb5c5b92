import Gatehouse.Account.Failure
import Gatehouse.Job

/-!
Resolving a user by id: from the cache if possible, else from storage.

A cache that fails either fails the resolution or is passed over, as the policy says. Storage is
asked up to three times, with a pause before each further attempt, as long as its failures may pass
by themselves. What storage answers is put into the cache.
-/

namespace Gatehouse

/-- What to do when the cache fails. -/
inductive Resolver.Policy where
  | degrade
  | strict
deriving DecidableEq, Repr

/-- How users are resolved. -/
structure Resolver where
  cached : Bool
  cacheTtl : Duration
  cacheTimeout : Duration
  storageTimeout : Duration
  policy : Resolver.Policy
deriving DecidableEq, Repr

namespace Resolver

/-- A resolver that always reads storage. -/
def plain : Resolver :=
  ⟨false, Duration.ofSecs 60, Duration.ofSecs 2, Duration.ofSecs 10, .degrade⟩

/-- The pauses before the further attempts to read storage. -/
def pauses : List Duration := [Duration.ofMillis 50, Duration.ofMillis 100]

variable (r : Resolver)

/-- Reads storage, with further attempts after the given pauses. -/
def attempt (id : Int64) : List Duration → Job (Except Store.Error User)
  | [] => .call (.store (.userById id)) (some r.storageTimeout) .done
  | p :: ps => .call (.store (.userById id)) (some r.storageTimeout) fun
    | .error e => if e.isTransient then .pause p (attempt id ps) else .done (.error e)
    | .ok u => .done (.ok u)

/-- The user as storage has it. -/
def load (id : Int64) : Job (Except Store.Error User) := r.attempt id pauses

/-- What a failure of the cache means. -/
def onCacheError (e : Cache.Error) : Except Error Unit :=
  match r.policy with
  | .degrade => .ok ()
  | .strict => .error (.cache e)

/-- Puts a user that storage answered into the cache. -/
def remember (u : User) : Job (Except Error User) :=
  .call (.cache (.set u r.cacheTtl)) (some r.cacheTimeout) fun
    | .ok _ => .done (.ok u)
    | .error e => .done ((r.onCacheError e).map fun _ => u)

/-- The user as storage has it, which is then remembered. -/
def loadAndRemember (id : Int64) : Job (Except Error User) :=
  (r.load id).bind fun
    | .error e => .done (.error (.store e))
    | .ok u => r.remember u

/-- The user with an id. -/
def resolve (id : Int64) : Job (Except Error User) :=
  if !r.cached then (r.load id).bind fun x => .done (x.mapError .store)
  else .call (.cache (.get id)) (some r.cacheTimeout) fun
    | .ok (some u) => .done (.ok u)
    | .ok none => r.loadAndRemember id
    | .error e =>
      match r.onCacheError e with
      | .error x => .done (.error x)
      | .ok _ => r.loadAndRemember id

/-- The waits that a resolution can have: two for the cache, three for storage, two pauses. -/
def waits : Nat := 7

end Resolver
end Gatehouse
