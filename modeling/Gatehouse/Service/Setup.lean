import Gatehouse.Cache.Remote
import Gatehouse.Command.Settings
import Gatehouse.Service.Handler

/-!
From settings to a service at work.

The database is reached first, then the token secret is taken, then the cache is reached if there is
to be one, and last the port is taken.
-/

namespace Gatehouse

/-- What is found at the places that settings name. -/
structure Surroundings where
  database : String → Bool
  cache : String → Bool
  port : Nat → Bool

/-- Surroundings in which nothing is found. -/
def Surroundings.nothing : Surroundings := ⟨fun _ => false, fun _ => false, fun _ => false⟩

namespace Setup

/-- Why a service cannot start. -/
inductive Failure where
  | database
  | secret
  | cache (cause : Cache.Remote.ConnectError)
  | listen
deriving DecidableEq, Repr

def Failure.message : Failure → String
  | .database => "Failed to connect to database"
  | .secret => "Invalid bearer token secret"
  | .cache cause => cause.message
  | .listen => "the port is taken"

/-- How users are resolved under settings. -/
def resolver (s : Settings) : Resolver where
  cached := s.cacheUrl.isSome
  cacheTtl := s.cacheTtl
  cacheTimeout := s.cacheTimeout
  storageTimeout := s.queryTimeout
  policy := s.cachePolicy

/-- The authority that issues and accepts tokens under settings. -/
def authority (s : Settings) : Except Token.Error Token.Authority :=
  Token.Authority.make s.tokenSecret s.tokenIssuer s.tokenTtl

/-- The service that settings describe. -/
def service (commit : String) (s : Settings) : Except Token.Error Service :=
  (authority s).map fun a => ⟨a, resolver s, s.operator, s.invitationTtl, commit⟩

/-- Who is admitted under settings. -/
def admission (s : Settings) : Admission := .ofConfig s.limiter

/-- Starts the service that settings describe. -/
def start (around : Surroundings) (commit : String) (s : Settings) :
    Except Failure (Service × Admission) :=
  if !around.database s.dsn then .error .database
  else match service commit s with
    | .error _ => .error .secret
    | .ok x =>
      let cache := match s.cacheUrl with
        | some url => Cache.Remote.connect (around.cache url) url s.cachePoolSize
        | none => .ok ()
      match cache with
      | .error e => .error (.cache e)
      | .ok _ => if around.port s.port then .ok (x, admission s) else .error .listen

end Setup
end Gatehouse
