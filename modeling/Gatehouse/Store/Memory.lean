import Gatehouse.Store.Call
import Gatehouse.Table

/-!
Storage in memory.

Every operation takes effect at one instant and either succeeds or leaves the data as it is. Ids are
given out in ascending order up to the last one of 64 bits. After that they start over, and what is new
takes the place of what had its id.
-/

namespace Gatehouse.Store

/-- An invitation that waits to be used: whose account it activates, and until when. -/
structure Pending where
  userId : Int64
  expiresAt : Instant
deriving DecidableEq

/-- An edge between two users: who is followed, and by whom. -/
structure Edge where
  user : Int64
  follower : Int64
deriving DecidableEq, Repr

/-- The data of a store. -/
structure Memory where
  roles : List Role
  accounts : Table Int64 Credentials
  invitations : Table String Pending
  posts : Table Int64 Post
  edges : List Edge
  nextUserId : Int64
  nextPostId : Int64
deriving DecidableEq

/-- The result of an operation and the data after it. -/
abbrev Memory.Result (α : Type) := Except Error α × Memory

namespace Memory

/-- A store without anything, not even roles. -/
def empty : Memory := ⟨[], .empty, .empty, .empty, [], 0, 0⟩

/-- The three roles that every service has. -/
def seededRoles : List Role :=
  [⟨1, "user", "A user can create posts and comments", 1⟩,
   ⟨2, "moderator", "A moderator can update other users posts", 2⟩,
   ⟨3, "admin", "An admin can update and delete other users posts", 3⟩]

/-- A store with the three roles; ids start at one. -/
def seeded : Memory := { empty with roles := seededRoles, nextUserId := 1, nextPostId := 1 }

instance : Inhabited Memory := ⟨seeded⟩

variable (m : Memory)

/-! ### Views -/

def role? (name : String) : Option Role := m.roles.find? fun r => r.name = name

def user? (id : Int64) : Option User := (m.accounts.find? id).map (·.user)

/-- Whether one user follows another. -/
def isFollowing (follower user : Int64) : Bool := m.edges.contains ⟨user, follower⟩

/-- The larger of two ids. -/
def maxId (a b : Int64) : Int64 := if a < b then b else a

/-! ### Operations -/

/-- The value if there is one, with the data as it is. -/
def answer {α : Type} : Option α → Memory.Result α
  | some a => (.ok a, m)
  | none => (.error .notFound, m)

/-- Puts an account under an id of its own choice, without an invitation. -/
def insertUser (now : Instant) (id : Int64) (username role passwordHash : String)
    (isActive : Bool) : Memory.Result User :=
  match m.role? role with
  | none => (.error .notFound, m)
  | some role =>
    let user : User := ⟨id, username, username ++ "@agora.test", role, isActive, now⟩
    (.ok user, { m with
      accounts := m.accounts.insert id ⟨user, passwordHash⟩
      nextUserId := maxId m.nextUserId (id + 1) })

/-- Puts a post without content under an id of its own choice. -/
def insertPost (now : Instant) (id userId : Int64) (title : String) : Post × Memory :=
  let post : Post := ⟨id, userId, title, "", [], 0, now, now⟩
  (post, { m with
    posts := m.posts.insert id post
    nextPostId := maxId m.nextPostId (id + 1) })

def userById (id : Int64) : Memory.Result User := m.answer (m.user? id)

def credentials (email : String) : Memory.Result Credentials :=
  m.answer (m.accounts.values.find? fun c => c.user.email = email)

def createAndInvite (now : Instant) (n : Newcomer) (i : Invitation) : Memory.Result User :=
  if m.accounts.values.any fun c => c.user.email = n.email then (.error (.conflict "email"), m)
  else if m.accounts.values.any fun c => c.user.username = n.username then
    (.error (.conflict "username"), m)
  else match m.role? n.role with
    | none => (.error .notFound, m)
    | some role =>
      let id := m.nextUserId
      let user : User := ⟨id, n.username, n.email, role, false, now⟩
      (.ok user, { m with
        accounts := m.accounts.insert id ⟨user, n.passwordHash⟩
        invitations := m.invitations.insert i.digest ⟨id, i.expiresAt⟩
        nextUserId := id + 1 })

def roleByName (name : String) : Memory.Result Role := m.answer (m.role? name)

def createInvitation (userId : Int64) (i : Invitation) : Memory.Result Unit :=
  if m.accounts.contains userId then
    (.ok (), { m with invitations := m.invitations.insert i.digest ⟨userId, i.expiresAt⟩ })
  else (.error .notFound, m)

def activate (digest : String) (now : Instant) : Memory.Result Int64 :=
  match m.invitations.find? digest with
  | none => (.error .notFound, m)
  | some p =>
    if now.before p.expiresAt then
      match m.accounts.find? p.userId with
      | none => (.error .notFound, m)
      | some c =>
        (.ok p.userId, { m with
          accounts := m.accounts.insert p.userId { c with user := { c.user with isActive := true } }
          invitations := m.invitations.erase digest })
    else (.error .notFound, m)

def createPost (now : Instant) (d : Post.Draft) : Memory.Result Post :=
  let id := m.nextPostId
  let post : Post := ⟨id, d.userId, d.title, d.content, d.tags, 0, now, now⟩
  (.ok post, { m with posts := m.posts.insert id post, nextPostId := id + 1 })

def postById (id : Int64) : Memory.Result Post := m.answer (m.posts.find? id)

def updatePost (now : Instant) (id : Int64) (patch : Post.Patch) : Memory.Result Post :=
  match m.posts.find? id with
  | none => (.error .notFound, m)
  | some p =>
    let p := p.amend patch now
    (.ok p, { m with posts := m.posts.insert id p })

def deletePost (id : Int64) : Memory.Result Unit :=
  if m.posts.contains id then (.ok (), { m with posts := m.posts.erase id })
  else (.error .notFound, m)

def follow (follower user : Int64) : Memory.Result Unit :=
  if follower = user then (.error (.conflict "self"), m)
  else if m.accounts.contains user && m.accounts.contains follower then
    if m.isFollowing follower user then (.error (.conflict "follow"), m)
    else (.ok (), { m with edges := m.edges ++ [⟨user, follower⟩] })
  else (.error .notFound, m)

def unfollow (follower user : Int64) : Memory.Result Unit :=
  if follower = user then (.error (.conflict "self"), m)
  else (.ok (), { m with edges := m.edges.filter (· ≠ ⟨user, follower⟩) })

/-- The answer to a call at an instant, and the data after it. -/
def perform (now : Instant) : (c : Call) → Memory.Result c.Answer
  | .userById id => m.userById id
  | .credentials email => m.credentials email
  | .createAndInvite n i => m.createAndInvite now n i
  | .roleByName name => m.roleByName name
  | .createInvitation userId i => m.createInvitation userId i
  | .activate digest today => m.activate digest today
  | .createPost d => m.createPost now d
  | .postById id => m.postById id
  | .updatePost id patch => m.updatePost now id patch
  | .deletePost id => m.deletePost id
  | .follow follower user => m.follow follower user
  | .unfollow follower user => m.unfollow follower user

end Memory
end Gatehouse.Store
