import Gatehouse.Account.Failure
import Gatehouse.Digest.Sha256
import Gatehouse.Job
import Gatehouse.Text.Base64
import Gatehouse.Text.Hex

/-!
Invitations, by which accounts are activated.

The plaintext of an invitation is handed out once and never stored: storage keeps its SHA-256 digest.
An invitation whose end cannot be told is refused before storage is called.
-/

namespace Gatehouse.Invitation

/-- The plaintext that random bytes make; 32 of them give 43 characters. -/
def plaintext (random : Bytes) : String := Text.Base64.url.encode random

/-- The digest under which a plaintext is stored. -/
def digestOf (plaintext : String) : String :=
  Text.Hex.encode (Digest.Sha256.hash (Bytes.utf8 plaintext))

/-- The invitation of a plaintext that holds for a span from an instant on. -/
def make? (plaintext : String) (now : Instant) (ttl : Duration) : Option Invitation :=
  (now.after? ttl).map fun t => ⟨digestOf plaintext, t⟩

/-- Adds an invitation for an account. Its plaintext is answered. -/
def issue (random : Bytes) (userId : Int64) (ttl : Duration) : Job (Except Error String) :=
  .wall fun now =>
    match make? (plaintext random) now ttl with
    | none => .done (.error .ttl)
    | some i => .call (.store (.createInvitation userId i)) none fun
      | .ok _ => .done (.ok (plaintext random))
      | .error e => .done (.error (.store e))

/-- Opens an inactive account together with its invitation. The user and the plaintext are answered. -/
def register (random : Bytes) (newcomer : Store.Newcomer) (ttl : Duration) :
    Job (Except Error (User × String)) :=
  .wall fun now =>
    match make? (plaintext random) now ttl with
    | none => .done (.error .ttl)
    | some i => .call (.store (.createAndInvite newcomer i)) none fun
      | .ok u => .done (.ok (u, plaintext random))
      | .error e => .done (.error (.store e))

/-- Uses up the invitation with a plaintext and activates its account. -/
def activate (plaintext : String) : Job (Except Error Unit) :=
  .wall fun now =>
    .call (.store (.activate (digestOf plaintext) now)) none fun
      | .ok _ => .done (.ok ())
      | .error .notFound => .done (.error .notFound)
      | .error e => .done (.error (.store e))

end Gatehouse.Invitation
