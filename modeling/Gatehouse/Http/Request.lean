import Gatehouse.Http.Address
import Gatehouse.Http.Header
import Gatehouse.Http.Target

/-!
Requests that are well-formed: what they ask for, the fields in front of it, and a body.
-/

namespace Gatehouse.Http

/-- A request. The characters of its path are bytes. -/
structure Request where
  method : String
  path : List Char
  headers : Headers
  body : Bytes
  peer : Option Address
deriving DecidableEq

namespace Request

/-- A request from its parts, if they are well-formed. -/
def make? (method : String) (target : Bytes) (fields : List (String × Bytes)) (body : Bytes)
    (peer : Option Address) : Option Request := do
  guard (isToken (Bytes.utf8 method))
  let path ← Target.pathOf? target
  let headers ← Headers.ofList? fields
  return ⟨method, path, headers, body, peer⟩

end Request
end Gatehouse.Http
