import Gatehouse.Http.Header
import Gatehouse.Json.Value

/-!
Responses: a status, the header fields that the service sets, and a body.
-/

namespace Gatehouse.Http

/-- The answer to a request. -/
structure Response where
  status : Nat
  headers : Headers
  body : Bytes
deriving DecidableEq, Inhabited

namespace Response

/-- A status and nothing else. -/
def empty (status : Nat) : Response := ⟨status, [], []⟩

/-- A status with a JSON value. -/
def json (status : Nat) (body : Json) : Response :=
  ⟨status, [("content-type", Bytes.utf8 "application/json")], body.render⟩

/-- A status with plain text. -/
def text (status : Nat) (body : String) : Response :=
  ⟨status, [("content-type", Bytes.utf8 "text/plain; charset=utf-8")], Bytes.utf8 body⟩

/-- A response with one more header field. -/
def withHeader (r : Response) (name : String) (value : Bytes) : Response :=
  { r with headers := r.headers ++ [(name, value)] }

end Response
end Gatehouse.Http
