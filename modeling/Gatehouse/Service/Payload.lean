import Gatehouse.Json.Record
import Gatehouse.Post

/-!
The bodies that requests send, as records.
-/

namespace Gatehouse.Service

/-- What opens an account. -/
structure Registration where
  username : String
  email : String
  password : String
deriving DecidableEq, Inhabited

/-- What a token is asked for with. -/
structure Login where
  email : String
  password : String
deriving DecidableEq, Inhabited

/-- A post to be written. -/
structure NewPost where
  title : String
  content : String
  tags : List String
deriving DecidableEq, Inhabited

/-- A registration as a record: username, email, password. -/
def Registration.shape : Json.Shape Registration where
  slots := [⟨"username", .text, none, none⟩, ⟨"email", .text, none, none⟩,
    ⟨"password", .text, none, none⟩]
  data x := [.text x.username, .text x.email, .text x.password]
  ofData?
    | [.text username, .text email, .text password] => some ⟨username, email, password⟩
    | _ => none

/-- A login as a record: email, password. -/
def Login.shape : Json.Shape Login where
  slots := [⟨"email", .text, none, none⟩, ⟨"password", .text, none, none⟩]
  data x := [.text x.email, .text x.password]
  ofData?
    | [.text email, .text password] => some ⟨email, password⟩
    | _ => none

/-- A new post as a record: title, content, and tags, of which there are none unless some are
named. -/
def NewPost.shape : Json.Shape NewPost where
  slots := [⟨"title", .text, none, none⟩, ⟨"content", .text, none, none⟩,
    ⟨"tags", .texts, some (.texts []), some (.texts [])⟩]
  data x := [.text x.title, .text x.content, .texts x.tags]
  ofData?
    | [.text title, .text content, .texts tags] => some ⟨title, content, tags⟩
    | _ => none

/-- The datum of a text that may be absent. -/
def optionalText : Option String → Json.Datum
  | some s => .text s
  | none => .absent

/-- The text of a datum, if it is one or absent. -/
def optionalText? : Json.Datum → Option (Option String)
  | .text s => some (some s)
  | .absent => some none
  | _ => none

/-- A change to a post as a record: title and content, which both may be null or left out. -/
def patchShape : Json.Shape Post.Patch where
  slots := [⟨"title", .optional .text, some .absent, none⟩,
    ⟨"content", .optional .text, some .absent, none⟩]
  data x := [optionalText x.title, optionalText x.content]
  ofData?
    | [title, content] => do return ⟨← optionalText? title, ← optionalText? content⟩
    | _ => none

end Gatehouse.Service
