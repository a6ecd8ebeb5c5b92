import Gatehouse.Json.Record

/-!
Accounts and their roles.

A user never carries a credential: the stored password record travels in `Credentials` alone, which
only the look-up for a login returns. The JSON form of a user has exactly the six fields of `User`.
-/

namespace Gatehouse

/-- A role. One with a higher level may do whatever one with a lower level may. -/
structure Role where
  id : Int64
  name : String
  description : String
  level : Int32
deriving DecidableEq, Inhabited

/-- An account, as everyone may see it. -/
structure User where
  id : Int64
  username : String
  email : String
  role : Role
  isActive : Bool
  createdAt : Instant
deriving DecidableEq, Inhabited

/-- An account with its stored password record. -/
structure Credentials where
  user : User
  passwordHash : String
deriving DecidableEq, Inhabited

/-! ### What logs show -/

/-- A character inside quotes, as logs show it. -/
def quoteChar (c : Char) : List Char :=
  if c = '"' ∨ c = '\\' then ['\\', c]
  else if c = '\n' then ['\\', 'n']
  else if c = '\r' then ['\\', 'r']
  else if c = '\t' then ['\\', 't']
  else if c.toNat = 0 then ['\\', '0']
  else if c.toNat < 32 ∨ c.toNat = 127 then
    ['\\', 'u', '\x7b'] ++ Nat.toDigits 16 c.toNat ++ ['\x7d']
  else [c]

/-- A text in quotes, as logs show it. -/
def quote (s : String) : String := String.ofList ('"' :: (s.toList.flatMap quoteChar ++ ['"']))

/-- A named value with its fields, as logs show it. -/
def describeFields (name : String) (fields : List (String × String)) : String :=
  name ++ " \x7b " ++ ", ".intercalate (fields.map fun f => f.1 ++ ": " ++ f.2) ++ " \x7d"

def Role.describe (r : Role) : String :=
  describeFields "Role" [("id", toString r.id.toInt), ("name", quote r.name),
    ("description", quote r.description), ("level", toString r.level.toInt)]

def User.describe (u : User) : String :=
  describeFields "User" [("id", toString u.id.toInt), ("username", quote u.username),
    ("email", quote u.email), ("role", u.role.describe), ("is_active", toString u.isActive),
    ("created_at", Stamp.write u.createdAt)]

/-- Credentials in a log: the password record is left out. -/
def Credentials.describe (c : Credentials) : String :=
  describeFields "UserCredentials" [("user", c.user.describe), ("password_hash", "\"***\"")]

/-- The role of every account that is opened by registration. -/
def Role.ofNewcomers : String := "user"

/-- A role as a record: id, name, description, level. -/
def Role.shape : Json.Shape Role where
  slots := [⟨"id", .int64, none, none⟩, ⟨"name", .text, none, none⟩,
    ⟨"description", .text, none, none⟩, ⟨"level", .int32, none, none⟩]
  data r := [.int64 r.id, .text r.name, .text r.description, .int32 r.level]
  ofData?
    | [.int64 id, .text name, .text description, .int32 level] =>
      some ⟨id, name, description, level⟩
    | _ => none

/-- A user as a record: id, username, email, role, is_active, created_at. -/
def User.shape : Json.Shape User where
  slots := [⟨"id", .int64, none, none⟩, ⟨"username", .text, none, none⟩,
    ⟨"email", .text, none, none⟩, ⟨"role", .record Role.shape.slots, none, none⟩,
    ⟨"is_active", .flag, none, none⟩, ⟨"created_at", .instant, none, none⟩]
  data u := [.int64 u.id, .text u.username, .text u.email, .record (Role.shape.data u.role),
    .flag u.isActive, .instant u.createdAt]
  ofData?
    | [.int64 id, .text username, .text email, .record role, .flag isActive, .instant createdAt] =>
      (Role.shape.ofData? role).map fun role => ⟨id, username, email, role, isActive, createdAt⟩
    | _ => none

end Gatehouse
