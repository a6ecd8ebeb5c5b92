import Gatehouse.Time.Duration

/-!
How storage can fail, and which failures may pass by themselves.
-/

namespace Gatehouse

/-- A failure of the database itself. -/
inductive Database.Error where
  | connectionLost (detail : String)
  | poolTimedOut
  | workerCrashed
  | poolClosed
  | rowNotFound
  | protocol (detail : String)
  | rejected (code : String) (constraint : Option String) (detail : String)
  | column (detail : String)
deriving DecidableEq, Repr

namespace Database.Error

/-- Whether the same call may succeed once the database has recovered. -/
def isTransient : Database.Error → Bool
  | .connectionLost _ | .poolTimedOut | .workerCrashed => true
  | _ => false

def message : Database.Error → String
  | .connectionLost detail => "error communicating with database: " ++ detail
  | .poolTimedOut => "pool timed out while waiting for an open connection"
  | .workerCrashed => "attempted to communicate with a crashed background worker"
  | .poolClosed => "attempted to acquire a connection on a closed pool"
  | .rowNotFound =>
    "no rows returned by a query that expected to return at least one row"
  | .protocol detail => "encountered unexpected or invalid data: " ++ detail
  | .rejected _ _ detail => "error returned from database: " ++ detail
  | .column detail => "error occurred while decoding a column: " ++ detail

end Database.Error

namespace Store

/-- How a call of the store can fail. A conflict names what is already there. -/
inductive Error where
  | notFound
  | conflict (what : String)
  | timeout (limit : Duration)
  | database (cause : Database.Error)
deriving DecidableEq, Repr

namespace Error

/-- Whether a call that failed so is worth another attempt. -/
def isTransient : Error → Bool
  | .timeout _ => true
  | .database cause => cause.isTransient
  | .notFound | .conflict _ => false

def message : Error → String
  | .notFound => "record not found"
  | .conflict what => "duplicate " ++ what
  | .timeout limit => "query timed out after " ++ limit.text
  | .database cause => "database error: " ++ cause.message

end Error
end Store
end Gatehouse
