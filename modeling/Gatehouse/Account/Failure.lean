import Gatehouse.Cache.Error
import Gatehouse.Store.Error

/-!
How invitations, authorization and the resolution of users can fail: in ways of their own, or
because storage or the cache did.
-/

namespace Gatehouse

/-- Why no invitation is issued or used up. -/
inductive Invitation.Error where
  | notFound
  | entropy (detail : String)
  | ttl
  | store (cause : Store.Error)
deriving DecidableEq, Repr

def Invitation.Error.message : Invitation.Error → String
  | .notFound => "invitation not found"
  | .entropy detail => "failed to generate invitation token: " ++ detail
  | .ttl => "invalid invitation ttl"
  | .store cause => cause.message

/-- Why a question of authorization has no answer. A required role that does not exist is a defect of
the service and no refusal. -/
inductive Authorization.Error where
  | roleNotFound (role : String)
  | store (cause : Store.Error)
deriving DecidableEq, Repr

def Authorization.Error.message : Authorization.Error → String
  | .roleNotFound role => "role not found: " ++ role
  | .store cause => cause.message

/-- Why a user cannot be resolved. -/
inductive Resolver.Error where
  | store (cause : Store.Error)
  | cache (cause : Cache.Error)
deriving DecidableEq, Repr

def Resolver.Error.message : Resolver.Error → String
  | .store cause => cause.message
  | .cache cause => cause.message

end Gatehouse
