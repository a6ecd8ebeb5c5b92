/-!
What the service says about itself.
-/

namespace Gatehouse.About

def name : String := "agora"

def version : String := "0.1.0"

def description : String :=
  "Social backend API: bearer-token authentication, role-based authorization and account invitations"

/-- Who may be asked about it, and where. -/
def contact : String × String := ("Team Agora", "team@agora.social")

/-- The terms on which it may be used. -/
def terms : String := "BSD-3-Clause"

end Gatehouse.About
