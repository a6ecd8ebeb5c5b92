import Gatehouse.Job
import Gatehouse.Json.Record
import Gatehouse.Problem

/-!
Why an action is not carried out.

Besides the problems that every part of the service knows, the path or the body of a request may not
be what the action needs.
-/

namespace Gatehouse.Service

/-- Why an action is not carried out. -/
inductive Refusal where
  | problem (p : Problem)
  | path
  | mediaType
  | tooLarge
  | body (fault : Json.Fault)
deriving DecidableEq, Repr

/-- The response that reports a refusal. -/
def Refusal.response : Refusal → Http.Response
  | .problem p => p.response
  | .path => .text 400 "the path does not identify anything"
  | .mediaType => .text 415 "the content type has to be application/json"
  | .tooLarge => .text 413 "the body is too large"
  | .body .malformed => .text 400 "the body is not JSON"
  | .body .cutShort => .text 400 "the body ends too early"
  | .body .mismatch => .text 422 "the body is JSON of another shape"

/-- A job that may end in a refusal. -/
abbrev Attempt := ExceptT Refusal Job

namespace Attempt

variable {α ε : Type}

/-- A job that cannot fail. -/
def ofJob (j : Job α) : Attempt α := .mk (j.bind fun a => .done (.ok a))

/-- A job whose failures become problems. -/
def ofFallible (problem : ε → Problem) (j : Job (Except ε α)) : Attempt α :=
  .mk (j.bind fun r => .done (r.mapError fun e => .problem (problem e)))

/-- A result whose failures become problems. -/
def ofExcept (problem : ε → Problem) (r : Except ε α) : Attempt α :=
  .mk (.done (r.mapError fun e => .problem (problem e)))

/-- The end of an attempt. -/
def refuse (r : Refusal) : Attempt α := .mk (.done (.error r))

/-- A call of storage. -/
def store (c : Store.Call) : Attempt c.Answer := ofFallible .ofStore (.store c)

end Attempt
end Gatehouse.Service
