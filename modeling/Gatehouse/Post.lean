import Gatehouse.Json.Record

/-!
Posts. Every change of a post makes its version one larger and keeps its owner.
-/

namespace Gatehouse

/-- A post of a user. -/
structure Post where
  id : Int64
  userId : Int64
  title : String
  content : String
  tags : List String
  version : Int32
  createdAt : Instant
  updatedAt : Instant
deriving DecidableEq, Inhabited

/-- What is needed to write a post. -/
structure Post.Draft where
  userId : Int64
  title : String
  content : String
  tags : List String
deriving DecidableEq, Inhabited

/-- A change to a post: what is absent stays as it is. -/
structure Post.Patch where
  title : Option String
  content : Option String
deriving DecidableEq, Inhabited

/-- The post after a change at an instant. -/
def Post.amend (p : Post) (patch : Post.Patch) (now : Instant) : Post :=
  { p with
    title := patch.title.getD p.title
    content := patch.content.getD p.content
    version := p.version + 1
    updatedAt := now }

/-- A post as a record: id, user_id, title, content, tags, version, created_at, updated_at. -/
def Post.shape : Json.Shape Post where
  slots := [⟨"id", .int64, none, none⟩, ⟨"user_id", .int64, none, none⟩,
    ⟨"title", .text, none, none⟩, ⟨"content", .text, none, none⟩, ⟨"tags", .texts, none, none⟩,
    ⟨"version", .int32, none, none⟩, ⟨"created_at", .instant, none, none⟩,
    ⟨"updated_at", .instant, none, none⟩]
  data p := [.int64 p.id, .int64 p.userId, .text p.title, .text p.content, .texts p.tags,
    .int32 p.version, .instant p.createdAt, .instant p.updatedAt]
  ofData?
    | [.int64 id, .int64 userId, .text title, .text content, .texts tags, .int32 version,
        .instant createdAt, .instant updatedAt] =>
      some ⟨id, userId, title, content, tags, version, createdAt, updatedAt⟩
    | _ => none

end Gatehouse
