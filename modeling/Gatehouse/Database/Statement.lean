import Gatehouse.Store.Call

/-!
The statements that storage in a database is made of.

A statement is named for what it asks; its text and its parameters follow from that. Texts are fixed,
and everything that comes from outside is a parameter.
-/

namespace Gatehouse.Database

/-- A parameter of a statement. -/
inductive Param where
  | int8 (n : Int64)
  | text (s : String)
  | texts (l : List String)
  | instant (t : Instant)
  | null
deriving DecidableEq

/-- A statement. -/
inductive Statement where
  | begin
  | commit
  | rollback
  | userById (id : Int64)
  | credentials (email : String)
  | insertUser (newcomer : Store.Newcomer)
  | insertInvitation (userId : Int64) (invitation : Invitation)
  | roleByName (name : String)
  | consumeInvitation (digest : String) (now : Instant)
  | activateUser (id : Int64)
  | insertPost (draft : Post.Draft)
  | postById (id : Int64)
  | updatePost (id : Int64) (patch : Post.Patch)
  | deletePost (id : Int64)
  | insertFollower (user follower : Int64)
  | deleteFollower (user follower : Int64)
deriving DecidableEq

namespace Statement

/-- The columns of a user and its role. -/
def userColumns : String :=
  "users.id, users.username, users.email, users.is_active, users.created_at, " ++
    "roles.id AS role_id, roles.name AS role_name, " ++
    "roles.description AS role_description, roles.level AS role_level"

/-- Users with their roles. -/
def usersWithRoles : String := " FROM users JOIN roles ON roles.id = users.role_id"

/-- The columns of a post. -/
def postColumns : String :=
  "id, user_id, title, content, tags, version, created_at, updated_at"

/-- The text of a statement. -/
def text : Statement → String
  | .begin => "BEGIN"
  | .commit => "COMMIT"
  | .rollback => "ROLLBACK"
  | .userById _ => "SELECT " ++ userColumns ++ usersWithRoles ++ " WHERE users.id = $1"
  | .credentials _ =>
    "SELECT " ++ userColumns ++ ", users.password" ++ usersWithRoles ++ " WHERE users.email = $1"
  | .insertUser _ =>
    "INSERT INTO users (username, email, password, role_id) " ++
      "VALUES ($1, $2, $3, (SELECT id FROM roles WHERE name = $4)) RETURNING id"
  | .insertInvitation _ _ =>
    "INSERT INTO user_invitations (token, user_id, expiry) VALUES ($1, $2, $3)"
  | .roleByName _ => "SELECT id, name, description, level FROM roles WHERE name = $1"
  | .consumeInvitation _ _ =>
    "DELETE FROM user_invitations WHERE token = $1 AND expiry > $2 RETURNING user_id"
  | .activateUser _ => "UPDATE users SET is_active = TRUE WHERE id = $1"
  | .insertPost _ =>
    "INSERT INTO posts (user_id, title, content, tags) VALUES ($1, $2, $3, $4) RETURNING " ++
      postColumns
  | .postById _ => "SELECT " ++ postColumns ++ " FROM posts WHERE id = $1"
  | .updatePost _ _ =>
    "UPDATE posts SET title = COALESCE($2, title), content = COALESCE($3, content), " ++
      "version = version + 1, updated_at = NOW() WHERE id = $1 RETURNING " ++ postColumns
  | .deletePost _ => "DELETE FROM posts WHERE id = $1"
  | .insertFollower _ _ => "INSERT INTO followers (user_id, follower_id) VALUES ($1, $2)"
  | .deleteFollower _ _ => "DELETE FROM followers WHERE user_id = $1 AND follower_id = $2"

/-- A text that may be absent. -/
def optional : Option String → Param
  | some s => .text s
  | none => .null

/-- The parameters of a statement, in the order of their numbers. -/
def params : Statement → List Param
  | .begin | .commit | .rollback => []
  | .userById id | .activateUser id | .postById id | .deletePost id => [.int8 id]
  | .credentials email => [.text email]
  | .insertUser n => [.text n.username, .text n.email, .text n.passwordHash, .text n.role]
  | .insertInvitation userId i => [.text i.digest, .int8 userId, .instant i.expiresAt]
  | .roleByName name => [.text name]
  | .consumeInvitation digest now => [.text digest, .instant now]
  | .insertPost d => [.int8 d.userId, .text d.title, .text d.content, .texts d.tags]
  | .updatePost id p => [.int8 id, optional p.title, optional p.content]
  | .insertFollower user follower | .deleteFollower user follower => [.int8 user, .int8 follower]

end Statement
end Gatehouse.Database
