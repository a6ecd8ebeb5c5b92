import Gatehouse.Database.Reply
import Gatehouse.Database.Statement
import Gatehouse.Store.Memory

/-!
The table of followers as a database keeps it.

The schema states four constraints: no user follows itself, an edge stands once, and both of its ends
are users. A row that violates one of them is rejected under the name of the first of them.
-/

namespace Gatehouse.Database

/-- The users and the edges between them. -/
structure Followers where
  users : List Int64
  edges : List Store.Edge
deriving DecidableEq

namespace Followers

/-- The constraint that a new edge violates, and the code of the violation. -/
def violation? (t : Followers) (user follower : Int64) : Option (String × String) :=
  if user = follower then some (checkViolation, "followers_not_self")
  else if t.edges.contains ⟨user, follower⟩ then some (uniqueViolation, "followers_pkey")
  else if !t.users.contains user then some (referenceViolation, "followers_user_id_fkey")
  else if !t.users.contains follower then some (referenceViolation, "followers_follower_id_fkey")
  else none

/-- The reply to a statement on the table, and the table after it. -/
def serve (t : Followers) : Statement → Reply × Followers
  | .insertFollower user follower =>
    match t.violation? user follower with
    | some (code, constraint) => (.failed (.rejected code (some constraint) ""), t)
    | none => (.done 1, { t with edges := t.edges ++ [⟨user, follower⟩] })
  | .deleteFollower user follower =>
    (.done (t.edges.filter (· = ⟨user, follower⟩)).length,
      { t with edges := t.edges.filter (· ≠ ⟨user, follower⟩) })
  | _ => (.done 0, t)

end Followers
end Gatehouse.Database
