import Gatehouse.Database.Talk

/-!
Storage in a database: the conversation that answers each call.

A reply that does not come within the limit fails its call. Opening an account and activating one
take several statements, which one transaction holds together.
-/

namespace Gatehouse.Database

open Query

/-- Opens an inactive account together with its invitation, and reads it back. -/
def createAndInvite (limit : Duration) (newcomer : Store.Newcomer) (invitation : Invitation) :
    Query (Verdict User) := do
  let id ← check ((← row limit (.insertUser newcomer)).int8 "id")
  let _ ← execute limit (.insertInvitation id invitation)
  let user ← check (← row limit (.userById id)).user
  return .keep user

/-- Uses up an invitation and activates the account that it names. Using it up is deleting it, so it
is found only once. -/
def activate (limit : Duration) (digest : String) (now : Instant) : Query (Verdict Int64) := do
  match ← row? limit (.consumeInvitation digest now) with
  | none => return .undo .notFound
  | some r =>
    let id ← check (r.int8 "user_id")
    let _ ← execute limit (.activateUser id)
    return .keep id

/-- The row that a statement yields, read by `read`; without one nothing was found. -/
def find {α : Type} (limit : Duration) (s : Statement) (read : Row → Except Database.Error α) :
    Talk (Except Store.Error α) :=
  result do check (read (← row limit s))

/-- The conversation that answers a call. -/
def perform (limit : Duration) : (c : Store.Call) → Talk (Except Store.Error c.Answer)
  | .userById id => find limit (.userById id) Row.user
  | .credentials email => find limit (.credentials email) Row.credentials
  | .createAndInvite newcomer invitation =>
    transaction limit (createAndInvite limit newcomer invitation)
  | .roleByName name => find limit (.roleByName name) Row.role
  | .createInvitation userId invitation =>
    result do let _ ← execute limit (.insertInvitation userId invitation)
  | .activate digest now => transaction limit (activate limit digest now)
  | .createPost draft => find limit (.insertPost draft) Row.post
  | .postById id => find limit (.postById id) Row.post
  | .updatePost id patch => find limit (.updatePost id patch) Row.post
  | .deletePost id =>
    result do
      let n ← execute limit (.deletePost id)
      if n = 0 then check (.error .rowNotFound)
  | .follow follower user =>
    if follower = user then .done (.error (.conflict "self"))
    else result do let _ ← execute limit (.insertFollower user follower)
  | .unfollow follower user =>
    if follower = user then .done (.error (.conflict "self"))
    else result do let _ ← execute limit (.deleteFollower user follower)

end Gatehouse.Database
