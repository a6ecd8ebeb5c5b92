import Gatehouse.Text.Pieces

/-!
What the service has to offer: the things that paths name, and what may be done with them.

A path names a thing by its segments as they are written; only the segments that identify one of
many are decoded, and that later. No segment that identifies something is empty.
-/

namespace Gatehouse.Service

/-- What can be done. Where one of many things is meant, the segment that identifies it comes
along. -/
inductive Action where
  | health
  | register
  | logIn
  | activate (token : List Char)
  | showUser (id : List Char)
  | follow (id : List Char)
  | unfollow (id : List Char)
  | createPost
  | showPost (id : List Char)
  | editPost (id : List Char)
  | deletePost (id : List Char)
  | showDocument
deriving DecidableEq, Repr

/-- The things that paths name. -/
inductive Resource where
  | health
  | registrations
  | tokens
  | activation (token : List Char)
  | user (id : List Char)
  | following (id : List Char)
  | unfollowing (id : List Char)
  | posts
  | post (id : List Char)
  | document
deriving DecidableEq, Repr

namespace Resource

/-- The thing that a segment identifies, unless the segment is empty. -/
def identified (make : List Char → Resource) (segment : String) : Option Resource :=
  if segment.isEmpty then none else some (make segment.toList)

/-- The thing that the segments of a path name; the first segment stands before the first slash. -/
def ofSegments? : List String → Option Resource
  | ["", "v1", "health"] => some .health
  | ["", "v1", "openapi.json"] => some .document
  | ["", "v1", "authentication", "user"] => some .registrations
  | ["", "v1", "authentication", "token"] => some .tokens
  | ["", "v1", "users", id] => identified .user id
  | ["", "v1", "users", "activate", token] => identified .activation token
  | ["", "v1", "users", id, "follow"] => identified .following id
  | ["", "v1", "users", id, "unfollow"] => identified .unfollowing id
  | ["", "v1", "posts"] => some .posts
  | ["", "v1", "posts", id] => identified .post id
  | _ => none

/-- The thing that a path names. -/
def ofPath? (path : List Char) : Option Resource :=
  ofSegments? ((Text.split '/' path).map String.ofList)

/-- What may be done with a thing, by the method that asks for it. -/
def actions : Resource → List (String × Action)
  | .health => [("GET", .health)]
  | .registrations => [("POST", .register)]
  | .tokens => [("POST", .logIn)]
  | .activation token => [("PUT", .activate token)]
  | .user id => [("GET", .showUser id)]
  | .following id => [("PUT", .follow id)]
  | .unfollowing id => [("PUT", .unfollow id)]
  | .posts => [("POST", .createPost)]
  | .post id => [("GET", .showPost id), ("PATCH", .editPost id), ("DELETE", .deletePost id)]
  | .document => [("GET", .showDocument)]

/-- What a method asks for. HEAD asks for what GET asks for. -/
def action? (r : Resource) (method : String) : Option Action :=
  r.actions.lookup (if method = "HEAD" then "GET" else method)

/-- The methods that may be used, with commas between them. -/
def allow (r : Resource) : String :=
  ",".intercalate (r.actions.flatMap fun a => if a.1 = "GET" then ["GET", "HEAD"] else [a.1])

end Resource
end Gatehouse.Service
