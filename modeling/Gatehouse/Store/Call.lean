import Gatehouse.Account.Basic
import Gatehouse.Post
import Gatehouse.Store.Error

/-!
The calls that storage answers.

Whatever storage is behind them, the rest of the service knows these calls and their answers alone.
-/

namespace Gatehouse

/-- An invitation as it is stored: the digest of its plaintext, never the plaintext. -/
structure Invitation where
  digest : String
  expiresAt : Instant
deriving DecidableEq, Inhabited

namespace Store

/-- What is needed to open an account. -/
structure Newcomer where
  username : String
  email : String
  passwordHash : String
  role : String
deriving DecidableEq, Inhabited

/-- A call of the store. -/
inductive Call where
  /-- The user with an id. -/
  | userById (id : Int64)
  /-- The credentials of the account with an email address. -/
  | credentials (email : String)
  /-- Opens an inactive account together with its invitation. -/
  | createAndInvite (newcomer : Newcomer) (invitation : Invitation)
  /-- The role with a name. -/
  | roleByName (name : String)
  /-- Adds an invitation for an account. -/
  | createInvitation (userId : Int64) (invitation : Invitation)
  /-- Uses up an invitation that has not expired and activates its account. -/
  | activate (digest : String) (now : Instant)
  | createPost (draft : Post.Draft)
  | postById (id : Int64)
  | updatePost (id : Int64) (patch : Post.Patch)
  | deletePost (id : Int64)
  /-- Lets one user follow another. -/
  | follow (follower user : Int64)
  /-- Ends that one user follows another. -/
  | unfollow (follower user : Int64)
deriving DecidableEq

/-- What a call answers when it succeeds. -/
abbrev Call.Answer : Call → Type
  | .userById _ => User
  | .credentials _ => Credentials
  | .createAndInvite _ _ => User
  | .roleByName _ => Role
  | .createInvitation _ _ => Unit
  | .activate _ _ => Int64
  | .createPost _ => Post
  | .postById _ => Post
  | .updatePost _ _ => Post
  | .deletePost _ => Unit
  | .follow _ _ => Unit
  | .unfollow _ _ => Unit

/-- The name under which calls are counted. -/
def Call.name : Call → String
  | .userById _ => "users.get_by_id"
  | .credentials _ => "users.get_credentials"
  | .createAndInvite _ _ => "users.create_and_invite"
  | .roleByName _ => "roles.get_by_name"
  | .createInvitation _ _ => "invitations.create_invitation"
  | .activate _ _ => "invitations.activate"
  | .createPost _ => "posts.create"
  | .postById _ => "posts.get_by_id"
  | .updatePost _ _ => "posts.update"
  | .deletePost _ => "posts.delete"
  | .follow _ _ => "followers.follow"
  | .unfollow _ _ => "followers.unfollow"

end Store
end Gatehouse
