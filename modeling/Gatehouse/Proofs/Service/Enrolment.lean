import Gatehouse.Proofs.Job.Alone
import Gatehouse.Proofs.Service.Calls

/-!
What one request does to the accounts and invitations that are stored.

* `Makes.spares`: all actions but two enrol nobody.
* `run_register`, `run_activate`: what a registration or an activation has done when it succeeds, and
  that it has done nothing otherwise.
* `run_logIn`: to whom a token is issued.
-/

namespace Gatehouse

open Http (Request Response)
open Store (Memory)

/-! ### Invitations -/

namespace Invitation

variable (deadline : Option Nat) (w : World)

/-- An account is opened together with its invitation, or nothing has changed. -/
theorem run_register (random : Bytes) (n : Store.Newcomer) (ttl : Duration) :
    (∃ i now u w', make? (plaintext random) w.today ttl = some i ∧
      w.backend.store.createAndInvite now n i = (.ok u, w'.backend.store) ∧
      (register random n ttl).run deadline w = (some (.ok (u, plaintext random)), w')) ∨
    ∃ w', w'.backend.store = w.backend.store ∧ ((register random n ttl).run deadline w = (none, w') ∨
      ∃ e, (register random n ttl).run deadline w = (some (.error e), w')) := by
  rw [register, Job.run_wall]
  cases make? (plaintext random) w.today ttl with
  | none => exact .inr ⟨w, rfl, .inr ⟨.ttl, rfl⟩⟩
  | some i =>
    rcases Job.run_store deadline w (.createAndInvite n i) none _ with
      ⟨now, u, w', ran, opened⟩ | ⟨w', same, ran | ⟨e, ran⟩⟩
    · exact .inl ⟨i, now, u, w', rfl, opened, ran⟩
    · exact .inr ⟨w', same, .inl ran⟩
    · exact .inr ⟨w', same, .inr ⟨.store e, ran⟩⟩

/-- An invitation is used up, or nothing has changed. -/
theorem run_activate (text : String) :
    (∃ id w', w.backend.store.activate (digestOf text) w.today = (.ok id, w'.backend.store) ∧
      (activate text).run deadline w = (some (.ok ()), w')) ∨
    ∃ w', w'.backend.store = w.backend.store ∧ ((activate text).run deadline w = (none, w') ∨
      ∃ e, (activate text).run deadline w = (some (.error e), w')) := by
  rw [activate, Job.run_wall]
  rcases Job.run_store deadline w (.activate (digestOf text) w.today) none _ with
    ⟨now, id, w', ran, used⟩ | ⟨w', same, ran | ⟨e, ran⟩⟩
  · exact .inl ⟨id, w', used, ran⟩
  · exact .inr ⟨w', same, .inl ran⟩
  · refine .inr ⟨w', same, .inr ?_⟩
    cases e <;> exact ⟨_, ran⟩

end Invitation

namespace Service

/-! ### Attempts that run alone -/

/-- What reports a refusal is an error of the client or of the service. -/
theorem Refusal.status_response (e : Refusal) : 400 ≤ e.response.status := by
  cases e with
  | problem p =>
    show 400 ≤ p.status
    cases p <;> simp [Problem.status]
  | body fault => cases fault <;> decide
  | _ => decide

namespace Attempt

variable {α β ε : Type} (deadline : Option Nat) (w : World)

theorem run_respond_bind (x : Attempt α) (f : α → Attempt Response) :
    (respond (x >>= f)).run deadline w =
      match x.run.run deadline w with
      | (some (.ok a), w') => (respond (f a)).run deadline w'
      | (some (.error e), w') => (some e.response, w')
      | (none, w') => (none, w') := by
  rw [respond_bind, Job.run_bind]
  rcases x.run.run deadline w with ⟨_ | _ | a, w'⟩ <;> rfl

/-- A step that has succeeded at once goes on in the same world. -/
theorem run_respond_bind_ok {x : Attempt α} {a : α} (taken : x.run = .done (.ok a))
    (f : α → Attempt Response) :
    (respond (x >>= f)).run deadline w = (respond (f a)).run deadline w := by
  rw [run_respond_bind, taken, Job.run_done]

theorem run_ofFallible (problem : ε → Problem) (j : Job (Except ε α)) :
    (ofFallible problem j).run.run deadline w =
      ((j.run deadline w).1.map fun r => r.mapError fun e => .problem (problem e),
        (j.run deadline w).2) := by
  show (j.bind _).run deadline w = _
  rw [Job.run_bind]
  rcases j.run deadline w with ⟨_ | r, w'⟩ <;> rfl

/-- An attempt has come to nothing: nothing stored has changed, and its response, if it has one,
reports an error. -/
def Failed (out : Option Response × World) : Prop :=
  out.2.backend.store = w.backend.store ∧ ∀ x, out.1 = some x → 400 ≤ x.status

variable {deadline w}

theorem Failed.none {w' : World} (same : w'.backend.store = w.backend.store) :
    Failed w (none, w') :=
  ⟨same, fun _ eq => by cases eq⟩

theorem Failed.refused {w' : World} (same : w'.backend.store = w.backend.store) (e : Refusal) :
    Failed w (some e.response, w') :=
  ⟨same, fun _ eq => Option.some.inj eq ▸ e.status_response⟩

/-- A step that is decided at once either fails, or goes on in the same world. -/
theorem Idle.run_bind {x : Attempt α} (idle : x.Idle) (f : α → Attempt Response) :
    Failed w ((respond (x >>= f)).run deadline w) ∨
    ∃ a, x.run = .done (.ok a) ∧
      (respond (x >>= f)).run deadline w = (respond (f a)).run deadline w := by
  obtain ⟨r, done, -⟩ := idle
  cases r with
  | ok a => exact .inr ⟨a, done, run_respond_bind_ok deadline w done f⟩
  | error e =>
    rw [run_respond_bind, done, Job.run_done]
    exact .inl (.refused rfl e)

end Attempt

open Attempt (Failed)

variable {r : Request} {deadline : Option Nat} {w : World}

/-! ### Registrations, activations, logins -/

/-- The body that answers a registration. -/
def openedBody (u : User) (invitation : String) : Json :=
  .obj [("user", User.shape.toJson u), ("token", .str invitation)]

/-- The body that answers a login. -/
def issuedBody (token : String) : Json := .obj [("token", .str token)]

/-- The account that a registration asks for. -/
def newcomer (draws : Draws) (p : Registration) : Store.Newcomer :=
  ⟨p.username, p.email, Password.hash draws.salt p.password, Role.ofNewcomers⟩

variable (deadline) in
/-- **A registration** opens an account with its invitation and says so, or fails. -/
theorem run_register (s : Service) (draws : Draws) :
    (∃ p i now u w', Registration.shape.decode r.body = .ok p ∧
      Invitation.make? (Invitation.plaintext draws.invitation) w.today s.invitationTtl = some i ∧
      w.backend.store.createAndInvite now (newcomer draws p) i = (.ok u, w'.backend.store) ∧
      (s.register draws r).respond.run deadline w =
        (some (.json 201 (openedBody u (Invitation.plaintext draws.invitation))), w')) ∨
    Failed w ((s.register draws r).respond.run deadline w) := by
  unfold register
  rcases (payload_idle Registration.shape r).run_bind _ with failed | ⟨p, taken, goes⟩
  · exact .inr failed
  rw [goes]
  rcases (keep_idle (Form.registration p.username p.email p.password)).run_bind _ with
    failed | ⟨_, -, goes⟩
  · exact .inr failed
  rw [goes, Attempt.run_respond_bind, Attempt.run_ofFallible]
  rcases Invitation.run_register deadline w draws.invitation (newcomer draws p) s.invitationTtl with
    ⟨i, now, u, w', invited, opened, ran⟩ | ⟨w', same, ran | ⟨e, ran⟩⟩
  · refine .inl ⟨p, i, now, u, w', decode_of_payload taken, invited, opened, ?_⟩
    rw [newcomer] at ran
    rw [ran]
    rfl
  · rw [newcomer] at ran
    rw [ran]
    exact .inr (.none same)
  · rw [newcomer] at ran
    rw [ran]
    exact .inr (.refused same _)

variable (deadline) in
/-- **An activation** uses up an invitation and says so, or fails. -/
theorem run_activate (segment : List Char) :
    (∃ text id w', Http.Percent.decodeText? segment = some text ∧
      w.backend.store.activate (Invitation.digestOf text) w.today = (.ok id, w'.backend.store) ∧
      (activate segment).respond.run deadline w = (some (.empty 204), w')) ∨
    Failed w ((activate segment).respond.run deadline w) := by
  unfold activate
  rcases (segmentText_idle segment).run_bind _ with failed | ⟨text, taken, goes⟩
  · exact .inr failed
  have decoded : Http.Percent.decodeText? segment = some text := by
    unfold segmentText at taken
    split at taken
    · next found =>
      rw [found]
      exact congrArg some (Except.ok.inj (Job.done.inj taken))
    · cases taken
  rw [goes, Attempt.run_respond_bind, Attempt.run_ofFallible]
  rcases Invitation.run_activate deadline w text with ⟨id, w', used, ran⟩ | ⟨w', same, ran | ⟨e, ran⟩⟩
  · refine .inl ⟨text, id, w', decoded, used, ?_⟩
    rw [ran]
    rfl
  · rw [ran]
    exact .inr (.none same)
  · rw [ran]
    exact .inr (.refused same _)

variable (deadline) in
/-- **A login** issues a token for the active account whose address and password are presented, or
fails. It changes nothing. -/
theorem run_logIn (s : Service) :
    (∃ p c now w', Login.shape.decode r.body = .ok p ∧
      w.backend.store.accounts.values.find? (fun c => c.user.email = p.email) = some c ∧
      Password.verify p.password c.passwordHash = true ∧ c.user.isActive = true ∧
      w'.backend.store = w.backend.store ∧
      (s.logIn r).respond.run deadline w =
        (some (.json 201 (issuedBody (s.authority.issueFor c.user.id now))), w')) ∨
    Failed w ((s.logIn r).respond.run deadline w) := by
  unfold logIn
  rcases (payload_idle Login.shape r).run_bind _ with failed | ⟨p, taken, goes⟩
  · exact .inr failed
  rw [goes]
  rcases (keep_idle (Form.login p.email p.password)).run_bind _ with failed | ⟨_, -, goes⟩
  · exact .inr failed
  rw [goes, Attempt.run_respond_bind, credentialsFor, Attempt.run_ofFallible]
  rcases Job.run_store deadline w (.credentials p.email) none .done with
    ⟨now, c, w', ran, found⟩ | ⟨w', same, ran | ⟨e, ran⟩⟩
  · obtain ⟨found, same⟩ := Memory.answer_eq_ok found
    rw [Job.store, ran]
    simp only [Job.run_done, Option.map_some, Except.mapError]
    split
    · next known =>
      obtain ⟨verified, active⟩ := Bool.and_eq_true_iff.mp known
      exact .inl ⟨p, c, _, w', decode_of_payload taken, found, verified, active, same, rfl⟩
    · exact .inr (.refused same _)
  · rw [Job.store, ran]
    exact .inr (.none same)
  · rw [Job.store, ran]
    exact .inr (.refused same _)

/-! ### All other actions -/

/-- **All actions but two enrol nobody.** -/
theorem Makes.spares {a : Action} {e : Effect} (makes : Makes r a e) (noOpening : a ≠ .register)
    (noActivation : ∀ segment, a ≠ .activate segment) : SparesAccounts e := by
  cases makes with
  | looksUp looks =>
    cases e with
    | store c => cases c <;> first | exact looks.elim | exact id
    | cache c => trivial
  | register n i => exact absurd rfl noOpening
  | activate segment digest now => exact absurd rfl (noActivation segment)
  | _ => exact fun enrols => enrols

/-- What is not a registration or an activation leaves accounts and invitations as they are. -/
theorem answer_sameAccounts (s : Service) (draws : Draws) (noOpening : aim r ≠ .action .register)
    (noActivation : ∀ segment, aim r ≠ .action (.activate segment)) :
    w.backend.store.SameAccounts ((s.answer draws r).run deadline w).2.backend.store := by
  refine Job.run_sameAccounts deadline w ((answer_makes s draws r).mono ?_)
  rintro e ⟨a, aimed, makes⟩
  exact makes.spares (fun same => noOpening (same ▸ aimed)) fun segment same =>
    noActivation segment (same ▸ aimed)

end Service

end Gatehouse
