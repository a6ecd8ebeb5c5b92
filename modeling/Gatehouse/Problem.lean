import Gatehouse.Account.Failure
import Gatehouse.Credential
import Gatehouse.Http.Response
import Gatehouse.Token.Claims

/-!
What a client is told when a request fails.

Every failure becomes one of a few problems, and a problem determines the whole response. Details of
storage, cache and tokens never reach a response: they are carried by `internal` alone, whose body
is always the same.
-/

namespace Gatehouse

/-- What went wrong, as far as a client may know. -/
inductive Problem where
  | malformed
  | unauthenticated
  | operatorUnauthenticated
  | forbidden
  | notFound
  | conflict (what : String)
  | badRequest (reason : String)
  | rateLimited (retryAfter : Duration)
  | internal (detail : String)
deriving DecidableEq, Repr

namespace Problem

def status : Problem → Nat
  | .malformed | .unauthenticated | .operatorUnauthenticated => 401
  | .forbidden => 403
  | .notFound => 404
  | .conflict _ => 409
  | .badRequest _ => 400
  | .rateLimited _ => 429
  | .internal _ => 500

/-- The one sentence of the body. -/
def message : Problem → String
  | .malformed | .unauthenticated | .operatorUnauthenticated => "unauthorized"
  | .forbidden => "forbidden"
  | .notFound => "not found"
  | .conflict what =>
    if what = "follow" then "already following that user"
    else if what = "self" then "users cannot follow themselves"
    else "a user with that " ++ what ++ " already exists"
  | .badRequest reason => reason
  | .rateLimited _ => "rate limit exceeded"
  | .internal _ => "server error"

/-- The challenge to present the operator's password. -/
def challenge : String := "Basic realm=\"restricted\", charset=\"UTF-8\""

/-- The seconds after which a client may try again: whole ones, and at least one. -/
def retrySeconds (d : Duration) : Nat := max d.secs 1

/-- The header fields that only some problems have. -/
def extraHeaders : Problem → Http.Headers
  | .rateLimited d => [("retry-after", Bytes.utf8 (toString (retrySeconds d)))]
  | .operatorUnauthenticated => [("www-authenticate", Bytes.utf8 challenge)]
  | _ => []

/-- The response to a request that failed. -/
def response (p : Problem) : Http.Response :=
  let r := Http.Response.json p.status (.obj [("error", .str p.message)])
  { r with headers := r.headers ++ p.extraHeaders }

/-! ### The problem that a failure becomes -/

def ofCredential : Credential.Error → Problem
  | .missing => .unauthenticated
  | .malformed => .malformed

def ofToken : Token.Error → Problem
  | .invalidKey => .internal (Token.Error.message .invalidKey)
  | .encoding detail => .internal (Token.Error.message (.encoding detail))
  | _ => .unauthenticated

def ofStore : Store.Error → Problem
  | .notFound => .notFound
  | .conflict what => .conflict what
  | e => .internal e.message

def ofAuthorization (e : Authorization.Error) : Problem :=
  .internal e.message

def ofInvitation : Invitation.Error → Problem
  | .notFound => .notFound
  | .store cause => ofStore cause
  | e => .internal e.message

/-- While a principal is resolved, a user that does not exist is a failed authentication. -/
def ofResolution : Resolver.Error → Problem
  | .store .notFound => .unauthenticated
  | e => .internal e.message

end Problem
end Gatehouse
