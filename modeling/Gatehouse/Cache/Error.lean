import Gatehouse.Time.Duration

/-!
How the cache of users can fail. That a user is not in it is no failure.
-/

namespace Gatehouse.Cache

/-- How a call of the cache can fail. -/
inductive Error where
  | backend (detail : String)
  | codec (detail : String)
  | timeout (limit : Duration)
deriving DecidableEq, Repr

def Error.message : Error → String
  | .backend detail => "cache backend error: " ++ detail
  | .codec detail => "cache entry could not be encoded or decoded: " ++ detail
  | .timeout limit => "cache call timed out after " ++ limit.text

end Gatehouse.Cache
