import Gatehouse.Account.Failure
import Gatehouse.Job

/-!
Who may touch what: the owner of a thing always, anybody else with a role whose level is at least
that of the role that is required.
-/

namespace Gatehouse.Authorization

/-- Whether a principal may touch what belongs to `owner`. The owner's rights need no look-up. -/
def authorize (principal : User) (owner : Int64) (required : String) : Job (Except Error Bool) :=
  if principal.id = owner then .done (.ok true)
  else .call (.store (.roleByName required)) none fun
    | .ok role => .done (.ok (role.level ≤ principal.role.level))
    | .error .notFound => .done (.error (.roleNotFound required))
    | .error e => .done (.error (.store e))

end Gatehouse.Authorization
