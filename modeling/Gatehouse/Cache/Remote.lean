import Gatehouse.Cache.Location
import Gatehouse.Cache.Memory

/-!
A cache on a server of its own: how it is reached, what it is sent, and how its replies are read.

Spans are told to the server in whole seconds, and in one second at least.
-/

namespace Gatehouse.Cache.Remote

/-- Why there is no connection. -/
inductive ConnectError where
  | badLocation
  | noPool
  | unreachable
deriving DecidableEq, Repr

def ConnectError.message : ConnectError → String
  | .badLocation => "invalid redis url"
  | .noPool => "failed to build redis connection pool"
  | .unreachable => "failed to connect to redis"

/-- Whether a server at a location can be used through a pool of connections. -/
def connect (answers : Bool) (location : String) (poolSize : Nat) : Except ConnectError Unit :=
  if !Location.isValid location then .error .badLocation
  else if poolSize = 0 then .error .noPool
  else if !answers then .error .unreachable
  else .ok ()

/-- The seconds for which an entry is kept. -/
def seconds (ttl : Duration) : Nat := max 1 (min ttl.secs 0x7fffffffffffffff)

/-- The words of the command for a call. -/
def command : Call → List Bytes
  | .get id => [Bytes.utf8 "GET", Bytes.utf8 (key id)]
  | .set user ttl =>
    [Bytes.utf8 "SET", Bytes.utf8 (key user.id), User.shape.encode user, Bytes.utf8 "EX",
      Bytes.utf8 (toString (seconds ttl))]

/-- What a server replies to a command. -/
inductive Reply where
  | nothing
  | done
  | bulk (text : Bytes)
  | number (n : Int)
  | failed (detail : String)
deriving DecidableEq

/-- The answer to a call that a reply is. A number is a text of digits. -/
def read : (c : Call) → Reply → Except Error c.Answer
  | _, .failed detail => .error (.backend detail)
  | .set _ _, _ => .ok ()
  | .get _, .nothing => .ok none
  | .get _, .done => Memory.readUser (Bytes.utf8 "OK")
  | .get _, .bulk text => Memory.readUser text
  | .get _, .number n => Memory.readUser (Bytes.utf8 (toString n))

end Gatehouse.Cache.Remote
