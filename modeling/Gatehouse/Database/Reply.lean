import Gatehouse.Account.Basic
import Gatehouse.Post
import Gatehouse.Store.Error

/-!
What a database replies to a statement, and how rows are read.

A column is read under its name and with exactly one type; a column that is missing, of another type
or null is a failure of the database. Violations of the constraints of the schema are told apart by
their code and the constraint's name.
-/

namespace Gatehouse.Database

/-- A value in a row. -/
inductive Cell where
  | int8 (n : Int64)
  | int4 (n : Int32)
  | flag (b : Bool)
  | text (s : String)
  | texts (l : List String)
  | instant (t : Instant)
  | null
deriving DecidableEq

/-- A row: its columns with their names. -/
abbrev Row := List (String × Cell)

/-- What comes back for a statement. -/
inductive Reply where
  | rows (rows : List Row)
  | done (affected : Nat)
  | failed (error : Database.Error)
  /-- Nothing came back in time. -/
  | late
deriving DecidableEq

namespace Row

variable (r : Row)

/-- The value of a column, if it is of the type that `read` takes. -/
def get {α : Type} (read : Cell → Option α) (name : String) : Except Database.Error α :=
  match (r.lookup name).bind read with
  | some a => .ok a
  | none => .error (.column name)

def int8 : String → Except Database.Error Int64 :=
  r.get fun
    | .int8 n => some n
    | _ => none

def int4 : String → Except Database.Error Int32 :=
  r.get fun
    | .int4 n => some n
    | _ => none

def flag : String → Except Database.Error Bool :=
  r.get fun
    | .flag b => some b
    | _ => none

def text : String → Except Database.Error String :=
  r.get fun
    | .text s => some s
    | _ => none

def texts : String → Except Database.Error (List String) :=
  r.get fun
    | .texts l => some l
    | _ => none

def instant : String → Except Database.Error Instant :=
  r.get fun
    | .instant t => some t
    | _ => none

/-- The user of a row, with its role. -/
def user : Except Database.Error User := do
  let id ← r.int8 "id"
  let username ← r.text "username"
  let email ← r.text "email"
  let isActive ← r.flag "is_active"
  let createdAt ← r.instant "created_at"
  let role : Role := ⟨← r.int8 "role_id", ← r.text "role_name", ← r.text "role_description",
    ← r.int4 "role_level"⟩
  return ⟨id, username, email, role, isActive, createdAt⟩

/-- The user of a row, with the stored password record. -/
def credentials : Except Database.Error Credentials := do
  return ⟨← r.user, ← r.text "password"⟩

def role : Except Database.Error Role := do
  return ⟨← r.int8 "id", ← r.text "name", ← r.text "description", ← r.int4 "level"⟩

def post : Except Database.Error Post := do
  return ⟨← r.int8 "id", ← r.int8 "user_id", ← r.text "title", ← r.text "content",
    ← r.texts "tags", ← r.int4 "version", ← r.instant "created_at", ← r.instant "updated_at"⟩

end Row

/-! ### Violations -/

/-- The codes of violations: of uniqueness, of a reference, and of a check. -/
def uniqueViolation : String := "23505"

def referenceViolation : String := "23503"

def checkViolation : String := "23514"

/-- The conflict that a violation of uniqueness is. -/
def conflictOf : Option String → String
  | some "users_email_key" => "email"
  | some "users_username_key" => "username"
  | some "followers_pkey" => "follow"
  | _ => "record"

/-- The failure of storage that a failure of the database is. -/
def storeError (e : Database.Error) : Store.Error :=
  match e with
  | .rowNotFound => .notFound
  | .rejected code constraint _ =>
    if code = uniqueViolation then .conflict (conflictOf constraint)
    else if code = referenceViolation ∧ constraint = some "followers_user_id_fkey" then .notFound
    else if code = checkViolation ∧ constraint = some "followers_not_self" then .conflict "self"
    else .database e
  | _ => .database e

/-- Whether the connection is gone after a failure. -/
def Error.isFatal : Database.Error → Bool
  | .connectionLost _ | .poolTimedOut | .workerCrashed | .poolClosed => true
  | _ => false

end Gatehouse.Database
