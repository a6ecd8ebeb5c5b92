import Gatehouse.Account.Invitation
import Gatehouse.Account.Password
import Gatehouse.Authorization
import Gatehouse.Document
import Gatehouse.Form
import Gatehouse.Http.MediaType
import Gatehouse.Http.Percent
import Gatehouse.Http.Request
import Gatehouse.Resolver
import Gatehouse.Service.Payload
import Gatehouse.Service.Refusal
import Gatehouse.Service.Resource
import Gatehouse.Token.Authority

/-!
How the service carries out an action.

Every action reads what it needs from the request, in this order: the principal, what the path
identifies, the body. Only then does anything happen to the data.
-/

namespace Gatehouse

/-- A service: what it is configured with. -/
structure Service where
  authority : Token.Authority
  resolver : Resolver
  operator : Credential.Basic
  invitationTtl : Duration
  commit : String

namespace Service

open Http (Request Response)

/-- Three days. -/
def defaultInvitationTtl : Duration := Duration.ofSecs (3 * 24 * 60 * 60)

/-- The role that may edit the posts of others, and the one that may delete them. -/
def editors : String := "moderator"

def deleters : String := "admin"

/-- The longest body that is read, in bytes. -/
def bodyLimit : Nat := 2097152

/-- The random bytes for one request: a salt for a password, the plaintext of an invitation, and a
part of the request's name. -/
structure Draws where
  salt : Bytes
  invitation : Bytes
  requestId : Bytes
deriving DecidableEq, Inhabited

/-! ### What a request holds -/

/-- The seconds from 1970 that the wall clock shows. -/
def today : Attempt Int64 := do
  let t ← Attempt.ofJob .now
  return Int64.ofInt t.secs

variable (s : Service)

/-- The user on whose behalf a request is sent, by its bearer token. -/
def principal (r : Request) : Attempt User := do
  let token ← Attempt.ofExcept .ofCredential (Credential.bearer r.headers)
  let claims ← Attempt.ofExcept .ofToken (s.authority.validate token (← today))
  Attempt.ofFallible .ofResolution (s.resolver.resolve claims.sub)

/-- The number of 64 bits that a text spells: digits, with a sign in front or without. -/
def number? (text : String) : Option Int64 :=
  let (negative, digits) := match text.toList with
    | '-' :: r => (true, r)
    | '+' :: r => (false, r)
    | r => (false, r)
  if digits.isEmpty || !digits.all Char.isDigit then none
  else
    let m : Int := digits.foldl (fun n c => n * 10 + (c.toNat - '0'.toNat)) 0
    let n := if negative then -m else m
    if Int64.minValue.toInt ≤ n ∧ n ≤ Int64.maxValue.toInt then some (Int64.ofInt n) else none

/-- The text that a segment of the path stands for. -/
def segmentText (segment : List Char) : Attempt String :=
  match Http.Percent.decodeText? segment with
  | some text => return text
  | none => .refuse .path

/-- The id that a segment of the path stands for. -/
def segmentId (segment : List Char) : Attempt Int64 :=
  match (Http.Percent.decodeText? segment).bind number? with
  | some id => return id
  | none => .refuse .path

/-- The record in the body of a request. -/
def payload {α : Type} (shape : Json.Shape α) (r : Request) : Attempt α :=
  if !Http.MediaType.isJson r.headers then .refuse .mediaType
  else if r.body.length > bodyLimit then .refuse .tooLarge
  else match shape.decode r.body with
    | .ok a => return a
    | .error f => .refuse (.body f)

/-- A form that keeps its rules. -/
def keep (rules : Except Form.Violation Unit) : Attempt Unit :=
  .ofExcept (fun v => .badRequest v.message) rules

/-! ### Actions -/

/-- The service tells who it is. Of its commit, a header field shows the first seven characters. -/
def health : Response :=
  let short := if s.commit.length > 7 then String.ofList (s.commit.toList.take 7) else ""
  let r := Response.json 200 (.obj [("commit", .str s.commit), ("name", .str About.name),
    ("version", .str About.version)])
  { r with headers := ("x-app", Bytes.utf8 (About.name ++ ":" ++ About.version ++ ":" ++ short)) :: r.headers }

/-- Opens an inactive account. Its invitation is answered here and never again. -/
def register (draws : Draws) (r : Request) : Attempt Response := do
  let p ← payload Registration.shape r
  keep (Form.registration p.username p.email p.password)
  let newcomer : Store.Newcomer :=
    ⟨p.username, p.email, Password.hash draws.salt p.password, Role.ofNewcomers⟩
  let (user, token) ← Attempt.ofFallible .ofInvitation
    (Invitation.register draws.invitation newcomer s.invitationTtl)
  return .json 201 (.obj [("user", User.shape.toJson user), ("token", .str token)])

/-- The credentials under an email address. An address that nobody has is a failed authentication, after the
password has been held against the decoy all the same. -/
def credentialsFor (email password : String) : Attempt Credentials :=
  .ofFallible (fun
    | .notFound =>
      let _matches := Password.verifyDecoy password
      .unauthenticated
    | e => .ofStore e) (.store (.credentials email))

/-- Issues a bearer token to an active account. -/
def logIn (r : Request) : Attempt Response := do
  let p ← payload Login.shape r
  keep (Form.login p.email p.password)
  let c ← credentialsFor p.email p.password
  if Password.verify p.password c.passwordHash && c.user.isActive then
    let token := s.authority.issueFor c.user.id (← today)
    return .json 201 (.obj [("token", .str token)])
  else .refuse (.problem .unauthenticated)

/-- Uses up an invitation. -/
def activate (segment : List Char) : Attempt Response := do
  let token ← segmentText segment
  Attempt.ofFallible .ofInvitation (Invitation.activate token)
  return .empty 204

/-- Shows a user. The principal is at hand already. -/
def showUser (principal : User) (segment : List Char) : Attempt Response := do
  let id ← segmentId segment
  if id = principal.id then return .json 200 (User.shape.toJson principal)
  let user ← Attempt.ofFallible (fun
    | Resolver.Error.store e => .ofStore e
    | e => .internal e.message) (s.resolver.resolve id)
  return .json 200 (User.shape.toJson user)

/-- Lets the principal follow another user. -/
def follow (principal : User) (segment : List Char) : Attempt Response := do
  let id ← segmentId segment
  Attempt.store (.follow principal.id id)
  return .empty 204

/-- Lets the principal follow another user no longer. -/
def unfollow (principal : User) (segment : List Char) : Attempt Response := do
  let id ← segmentId segment
  Attempt.store (.unfollow principal.id id)
  return .empty 204

/-- Writes a post of the principal. -/
def createPost (principal : User) (r : Request) : Attempt Response := do
  let p ← payload NewPost.shape r
  keep (Form.newPost p.title p.content)
  let post ← Attempt.store (.createPost ⟨principal.id, p.title, p.content, p.tags⟩)
  return .json 201 (Post.shape.toJson post)

/-- Shows a post. It does not matter to whom. -/
def showPost (segment : List Char) : Attempt Response := do
  let id ← segmentId segment
  let post ← Attempt.store (.postById id)
  return .json 200 (Post.shape.toJson post)

/-- The post with an id, if the principal owns it or has a role of sufficient level. -/
def ownPost (principal : User) (id : Int64) (role : String) : Attempt Unit := do
  let post ← Attempt.store (.postById id)
  let allowed ← Attempt.ofFallible .ofAuthorization
    (Authorization.authorize principal post.userId role)
  if !allowed then Attempt.refuse (.problem .forbidden)

/-- Changes a post. -/
def editPost (principal : User) (segment : List Char) (r : Request) : Attempt Response := do
  let id ← segmentId segment
  let patch ← payload patchShape r
  ownPost principal id editors
  keep (Form.postPatch patch.title patch.content)
  let post ← Attempt.store (.updatePost id patch)
  return .json 200 (Post.shape.toJson post)

/-- Deletes a post. -/
def deletePost (principal : User) (segment : List Char) : Attempt Response := do
  let id ← segmentId segment
  ownPost principal id deleters
  Attempt.store (.deletePost id)
  return .empty 204

/-- Whether a request presents the operator's name and password. -/
def isOperator (r : Request) : Bool :=
  match Credential.basic r.headers with
  | .ok presented => s.operator.matches presented
  | .error _ => false

/-- Shows the description of the service to its operator. -/
def showDocument (r : Request) : Attempt Response :=
  if s.isOperator r then return .json 200 Document.json
  else .refuse (.problem .operatorUnauthenticated)

/-- Carries out an action. -/
def perform (draws : Draws) (r : Request) : Action → Attempt Response
  | .health => return s.health
  | .register => s.register draws r
  | .logIn => s.logIn r
  | .activate token => activate token
  | .showUser id => do s.showUser (← s.principal r) id
  | .follow id => do follow (← s.principal r) id
  | .unfollow id => do unfollow (← s.principal r) id
  | .createPost => do createPost (← s.principal r) r
  | .showPost id => do
    let _ ← s.principal r
    showPost id
  | .editPost id => do editPost (← s.principal r) id r
  | .deletePost id => do deletePost (← s.principal r) id
  | .showDocument => s.showDocument r

end Service
end Gatehouse
