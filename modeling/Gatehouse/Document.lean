import Gatehouse.About
import Gatehouse.Json.Value

/-!
The description of the service for its operator: a document in the OpenAPI format.

The document lists every operation with what it takes and what it answers, and the shape of every
record that is sent or answered.
-/

namespace Gatehouse.Document

/-! ### Schemas -/

/-- The form of a value, with a remark on it if there is one. -/
inductive Form where
  | text
  | flag
  | integer (format : String)
  | instant
  | texts
  | optionalText
  | record (name : String)
deriving DecidableEq, Repr

/-- The place of a record among the schemas. -/
def reference (name : String) : Json := .obj [("$ref", .str ("#/components/schemas/" ++ name))]

/-- A value of a plain type. -/
def plain (type : String) (more : List (String × Json)) : Json := .obj (("type", .str type) :: more)

def Form.schema : Form → List (String × Json) → Json
  | .text, more => plain "string" more
  | .flag, more => plain "boolean" more
  | .integer format, more => plain "integer" (("format", .str format) :: more)
  | .instant, more => plain "string" (("format", .str "date-time") :: more)
  | .texts, more => plain "array" (("items", plain "string" []) :: more)
  | .optionalText, more => .obj (("type", .arr [.str "string", .str "null"]) :: more)
  | .record name, _ => reference name

/-- A field of a record. -/
structure Field where
  name : String
  form : Form
  required : Bool
  remark : Option String
deriving DecidableEq, Repr

/-- The schema of a record. -/
def recordSchema (fields : List Field) : Json :=
  let properties := fields.map fun f =>
    (f.name, f.form.schema ((f.remark.map fun r => ("description", Json.str r)).toList))
  let required := (fields.filter (·.required)).map fun f => Json.str f.name
  let demands := if required.isEmpty then [] else [("required", Json.arr required)]
  plain "object" (demands ++ [("properties", .obj properties)])

def id : Form := .integer "int64"

/-- The records, by their names. -/
def records : List (String × List Field) :=
  [("Health", [⟨"commit", .text, true, none⟩, ⟨"name", .text, true, none⟩,
      ⟨"version", .text, true, none⟩]),
   ("Role", [⟨"id", id, true, none⟩, ⟨"name", .text, true, none⟩, ⟨"description", .text, true, none⟩,
      ⟨"level", .integer "int32", true, some
        "Position in the hierarchy; a higher level holds every permission of a lower one."⟩]),
   ("User", [⟨"id", id, true, none⟩, ⟨"username", .text, true, none⟩, ⟨"email", .text, true, none⟩,
      ⟨"role", .record "Role", true, none⟩, ⟨"is_active", .flag, true, none⟩,
      ⟨"created_at", .instant, true, none⟩]),
   ("Post", [⟨"id", id, true, none⟩, ⟨"user_id", id, true, none⟩, ⟨"title", .text, true, none⟩,
      ⟨"content", .text, true, none⟩, ⟨"tags", .texts, true, none⟩,
      ⟨"version", .integer "int32", true, none⟩, ⟨"created_at", .instant, true, none⟩,
      ⟨"updated_at", .instant, true, none⟩]),
   ("RegisterUserPayload", [⟨"username", .text, true, none⟩, ⟨"email", .text, true, none⟩,
      ⟨"password", .text, true, none⟩]),
   ("UserWithToken", [⟨"user", .record "User", true, none⟩, ⟨"token", .text, true, some
        "One-time activation token; it is not retrievable again."⟩]),
   ("CreateTokenPayload", [⟨"email", .text, true, none⟩, ⟨"password", .text, true, none⟩]),
   ("TokenResponse", [⟨"token", .text, true, none⟩]),
   ("CreatePostPayload", [⟨"title", .text, true, none⟩, ⟨"content", .text, true, none⟩,
      ⟨"tags", .texts, false, none⟩]),
   ("UpdatePostPayload", [⟨"title", .optionalText, false, none⟩,
      ⟨"content", .optionalText, false, none⟩])]

/-! ### Operations -/

/-- What an operation may answer: a status, what it means, and the record that comes with it. -/
structure Reply where
  status : Nat
  meaning : String
  record : Option String
deriving DecidableEq, Repr

/-- The part of a path that identifies something. -/
structure Parameter where
  name : String
  form : Form
  meaning : String
deriving DecidableEq, Repr

/-- An operation: its method and name, the group that it belongs to, what it takes and what it
answers, and whether it takes a bearer token. -/
structure Operation where
  method : String
  name : String
  group : String
  parameter : Option Parameter
  body : Option String
  replies : List Reply
  secured : Bool
deriving DecidableEq, Repr

/-- The content of a body that holds a record. -/
def content (record : String) : String × Json :=
  ("content", .obj [("application/json", .obj [("schema", reference record)])])

def Reply.json (r : Reply) : Json :=
  .obj (("description", .str r.meaning) :: (r.record.map content).toList)

def Parameter.json (p : Parameter) : Json :=
  .obj [("name", .str p.name), ("in", .str "path"), ("description", .str p.meaning),
    ("required", .bool true), ("schema", p.form.schema [])]

def Operation.json (o : Operation) : Json :=
  let parameters := o.parameter.map fun p => ("parameters", Json.arr [p.json])
  let body := o.body.map fun b => ("requestBody", Json.obj [content b, ("required", .bool true)])
  let replies := o.replies.map fun r => (toString r.status, r.json)
  let security := if o.secured then [("security", Json.arr [.obj [("bearer", .arr [])]])] else []
  .obj ([("tags", .arr [.str o.group]), ("operationId", .str o.name)] ++ parameters.toList ++
    body.toList ++ [("responses", .obj replies)] ++ security)

/-- The reply to a request without a valid bearer token. -/
def noToken : Reply := ⟨401, "Missing or invalid bearer token", none⟩

def invalid : Reply := ⟨400, "Invalid payload", none⟩

/-- The operations, by their paths. -/
def operations : List (String × List Operation) :=
  let user (meaning : String) : Option Parameter := some ⟨"id", id, meaning⟩
  let post : Option Parameter := some ⟨"id", id, "Post id"⟩
  let missingPost : Reply := ⟨404, "Post not found", none⟩
  [("/v1/health",
      [⟨"get", "health", "health", none, none, [⟨200, "Service is up", some "Health"⟩], false⟩]),
   ("/v1/authentication/user",
      [⟨"post", "register", "authentication", none, some "RegisterUserPayload",
        [⟨201, "User registered, activation pending", some "UserWithToken"⟩, invalid,
         ⟨409, "Email or username already taken", none⟩], false⟩]),
   ("/v1/authentication/token",
      [⟨"post", "create_token", "authentication", none, some "CreateTokenPayload",
        [⟨201, "Bearer token issued", some "TokenResponse"⟩, invalid,
         ⟨401, "Invalid credentials or inactive account", none⟩], false⟩]),
   ("/v1/users/activate/\x7btoken\x7d",
      [⟨"put", "activate", "users", some ⟨"token", .text, "Invitation token"⟩, none,
        [⟨204, "User activated", none⟩,
         ⟨404, "Invitation unknown, expired or already used", none⟩], false⟩]),
   ("/v1/users/\x7bid\x7d",
      [⟨"get", "get_user", "users", user "User id", none,
        [⟨200, "User", some "User"⟩, noToken, ⟨404, "User not found", none⟩], true⟩]),
   ("/v1/users/\x7bid\x7d/follow",
      [⟨"put", "follow_user", "users", user "User to follow", none,
        [⟨204, "Now following", none⟩, noToken, ⟨404, "User not found", none⟩,
         ⟨409, "Already following, or following oneself", none⟩], true⟩]),
   ("/v1/users/\x7bid\x7d/unfollow",
      [⟨"put", "unfollow_user", "users", user "User to unfollow", none,
        [⟨204, "No longer following", none⟩, noToken, ⟨409, "Unfollowing oneself", none⟩], true⟩]),
   ("/v1/posts",
      [⟨"post", "create_post", "posts", none, some "CreatePostPayload",
        [⟨201, "Post created", some "Post"⟩, invalid, noToken], true⟩]),
   ("/v1/posts/\x7bid\x7d",
      [⟨"get", "get_post", "posts", post, none, [⟨200, "Post", some "Post"⟩, noToken, missingPost],
        true⟩,
       ⟨"patch", "update_post", "posts", post, some "UpdatePostPayload",
        [⟨200, "Post updated", some "Post"⟩, noToken,
         ⟨403, "Not the owner and role below moderator", none⟩, missingPost], true⟩,
       ⟨"delete", "delete_post", "posts", post, none,
        [⟨204, "Post deleted", none⟩, noToken,
         ⟨403, "Not the owner and role below admin", none⟩, missingPost], true⟩])]

/-! ### The document -/

/-- The groups of operations that are explained. -/
def groups : List (String × String) :=
  [("authentication", "Registration and bearer tokens"),
   ("users", "Activation, profiles and follows"),
   ("posts", "Posts with owner and role checks")]

/-- The kinds of credentials. -/
def schemes : Json :=
  .obj [("basic", plain "http" [("scheme", .str "basic")]),
    ("bearer", plain "http" [("scheme", .str "bearer"), ("bearerFormat", .str "JWT")])]

def info : Json :=
  .obj [("title", .str About.name), ("description", .str About.description),
    ("contact", .obj [("name", .str About.contact.1), ("email", .str About.contact.2)]),
    ("license", .obj [("name", .str About.terms), ("identifier", .str About.terms)]),
    ("version", .str About.version)]

/-- The document. -/
def json : Json :=
  .obj [("openapi", .str "3.1.0"), ("info", info),
    ("paths", .obj (operations.map fun p => (p.1, .obj (p.2.map fun o => (o.method, o.json))))),
    ("components", .obj [("schemas", .obj (records.map fun r => (r.1, recordSchema r.2))),
      ("securitySchemes", schemes)]),
    ("tags", .arr (groups.map fun g => .obj [("name", .str g.1), ("description", .str g.2)]))]

end Gatehouse.Document
