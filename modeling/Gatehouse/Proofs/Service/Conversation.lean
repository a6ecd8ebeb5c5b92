import Gatehouse.Proofs.Service.Enrolment

/-!
Conversations with a service: requests that are answered one after another.

* `Exchange`: a request as it was served, with the random bytes it was given, the instant at which it
  arrived and its response. `Opens`, `Activates` and `Issues` say what an exchange has come to.
* `Gate.run`: what happens to a gate, and the log of its exchanges.
* `Gate.handle_enrols`: what one exchange has done to accounts and invitations.
* `Gate.handle_issues`: to whom a token has been issued.
-/

namespace Gatehouse.Service

open Http (Request Response)
open Store (Memory)

/-! ### Exchanges -/

/-- A request as it was served. -/
structure Exchange where
  draws : Draws
  request : Request
  arrival : Instant
  response : Response

/-- What a registration opens: an account with a password, and the invitation to activate it. -/
structure Opening where
  user : User
  passwordHash : String
  invitation : Invitation

/-- The account as it is opened. -/
def Opening.credentials (o : Opening) : Credentials := ⟨o.user, o.passwordHash⟩

namespace Exchange

/-- A registration has succeeded: the account has the address and the name that were sent and a hash
of the password that was sent, it is inactive, and its invitation holds from the arrival on. -/
structure Opens (s : Service) (x : Exchange) (o : Opening) : Prop where
  aimed : aim x.request = .action .register
  form : ∃ p, Registration.shape.decode x.request.body = .ok p ∧ o.user.username = p.username ∧
    o.user.email = p.email ∧ o.passwordHash = Password.hash x.draws.salt p.password
  inactive : o.user.isActive = false
  invited : Invitation.make? (Invitation.plaintext x.draws.invitation) x.arrival s.invitationTtl =
    some o.invitation
  status : x.response.status = 201
  body : x.response.body =
    (openedBody o.user (Invitation.plaintext x.draws.invitation)).render

/-- An activation has succeeded: the plaintext of an invitation was presented before its end. -/
structure Activates (x : Exchange) (i : Invitation) : Prop where
  presented : ∃ segment text, aim x.request = .action (.activate segment) ∧
    Http.Percent.decodeText? segment = some text ∧ Invitation.digestOf text = i.digest
  early : x.arrival.before i.expiresAt = true
  status : x.response.status = 204

/-- A login with an address and a password has succeeded: the response holds a token. -/
structure Issues (s : Service) (x : Exchange) (p : Login) (c : Token.Claims) : Prop where
  aimed : aim x.request = .action .logIn
  form : Login.shape.decode x.request.body = .ok p
  status : x.response.status = 201
  body : x.response.body = (issuedBody (s.authority.generate c)).render

/-- Whether an exchange is a registration that has succeeded. -/
def isOpening (x : Exchange) : Bool := aim x.request = .action .register && x.response.status = 201

end Exchange

/-! ### Runs -/

/-- What may happen to a gate: a request arrives and is served, time passes, or clients whose windows
have ended are forgotten. -/
inductive Occurrence where
  | request (draws : Draws) (r : Request)
  | wait (d : Duration)
  | sweep

namespace Gate

/-- What is stored behind a gate. -/
def store (g : Gate) : Memory := g.world.backend.store

/-- A gate that has forgotten the clients whose windows have ended. -/
def sweep (g : Gate) : Gate :=
  match g.admission with
  | .everyone => g
  | .windows l => { g with admission := .windows (l.sweep g.world.clock.now) }

/-- A request that is served. -/
def exchange (g : Gate) (draws : Draws) (r : Request) : Exchange :=
  ⟨draws, r, g.world.today, (g.handle draws r).1⟩

/-- A log and a gate after one more occurrence. -/
def proceed (s : List Exchange × Gate) : Occurrence → List Exchange × Gate
  | .request draws r => (s.1 ++ [s.2.exchange draws r], (s.2.handle draws r).2)
  | .wait d => (s.1, { s.2 with world := s.2.world.advance d })
  | .sweep => (s.1, s.2.sweep)

/-- The log of what happens to a gate, and the gate after it. -/
def run (g : Gate) (occurrences : List Occurrence) : List Exchange × Gate :=
  occurrences.foldl proceed ([], g)

theorem run_concat (g : Gate) (occurrences : List Occurrence) (o : Occurrence) :
    g.run (occurrences ++ [o]) = proceed (g.run occurrences) o := by
  simp only [run, List.foldl_append, List.foldl_cons, List.foldl_nil]

theorem handle_service (g : Gate) (draws : Draws) (r : Request) :
    (g.handle draws r).2.service = g.service := by
  unfold handle
  dsimp only
  split <;> rfl

/-- Whatever happens to a gate, its service stays as it is configured. -/
theorem proceed_service (t : List Exchange × Gate) (o : Occurrence) :
    (proceed t o).2.service = t.2.service := by
  cases o with
  | request draws r => exact t.2.handle_service draws r
  | wait d => rfl
  | sweep =>
    show t.2.sweep.service = t.2.service
    unfold sweep
    split <;> rfl

theorem sweep_world (g : Gate) : g.sweep.world = g.world := by
  unfold sweep
  split <;> rfl

/-! ### One request -/

variable (g : Gate) (draws : Draws) (r : Request)

/-- A request is either turned away uncalled, or its job runs up to its deadline. -/
theorem handle_cases :
    (∃ wait, g.handle draws r = (dispatch draws g.world.today r (Problem.rateLimited wait).response,
      (g.screen r).2)) ∨
    g.handle draws r = (dispatch draws g.world.today r
        (((g.service.answer draws r).run (some (g.world.clock.timer patience)) g.world).1.getD
          (.empty 408)),
      { (g.screen r).2 with
        world := ((g.service.answer draws r).run (some (g.world.clock.timer patience)) g.world).2 }) := by
  cases decided : (g.screen r).1 with
  | allowed => exact .inr (g.handle_of_allowed draws decided rfl)
  | limited wait => exact .inl ⟨wait, g.handle_of_limited draws decided⟩

/-- The response bears the status that the job or the limiter has given it. -/
theorem status_dispatch (now : Instant) (x : Response) : (dispatch draws now r x).status = x.status := by
  unfold dispatch
  dsimp only
  split <;> split <;> rfl

variable {g draws r}

/-- Nobody registers or logs in by HEAD. -/
theorem method_ne_head (aimed : aim r = .action .register ∨ aim r = .action .logIn) :
    r.method ≠ "HEAD" := by
  intro head
  unfold aim at aimed
  split at aimed
  · simp at aimed
  next resource _ =>
    rw [head] at aimed
    cases resource <;> simp [Resource.action?, Resource.actions, List.lookup_cons] at aimed

theorem body_dispatch (now : Instant) (aimed : aim r = .action .register ∨ aim r = .action .logIn)
    (x : Response) : (dispatch draws now r x).body = x.body := by
  rcases aimed with aimed | aimed
  · rw [dispatch_of_action draws now aimed]
    exact if_neg (method_ne_head (.inl aimed))
  · rw [dispatch_of_action draws now aimed]
    exact if_neg (method_ne_head (.inr aimed))

/-- A request is refused: nothing stored has changed, and the response reports an error. -/
def Refuses (g : Gate) (draws : Draws) (r : Request) : Prop :=
  (g.handle draws r).2.store = g.store ∧ 400 ≤ (g.handle draws r).1.status

/-- What the limiter turns away is refused. -/
theorem refuses_of_limited {wait : Duration}
    (limited : g.handle draws r = (dispatch draws g.world.today r (Problem.rateLimited wait).response,
      (g.screen r).2)) : g.Refuses draws r := by
  rw [Refuses, limited, status_dispatch]
  exact ⟨rfl, (Refusal.problem (.rateLimited wait)).status_response⟩

/-- An attempt that fails is refused. -/
theorem refuses_of_failed {a : Action} (aimed : aim r = .action a)
    (failed : Attempt.Failed g.world
      ((g.service.perform draws r a).respond.run (some (g.world.clock.timer patience)) g.world)) :
    g.Refuses draws r := by
  rcases g.handle_cases draws r with ⟨wait, limited⟩ | admitted
  · exact refuses_of_limited limited
  · rw [answer_eq_respond g.service draws aimed] at admitted
    rw [Refuses, admitted, status_dispatch]
    refine ⟨failed.1, ?_⟩
    rcases ran : ((g.service.perform draws r a).respond.run (some (g.world.clock.timer patience))
      g.world).1 with _ | x
    · decide
    · exact failed.2 x ran

variable (draws) in
/-- An attempt that comes to a response is answered with it, unless the limiter turns it away. -/
theorem answered_of_run {a : Action} (aimed : aim r = .action a) {x : Response} {w : World}
    (ran : (g.service.perform draws r a).respond.run (some (g.world.clock.timer patience)) g.world =
      (some x, w)) :
    g.Refuses draws r ∨
      (g.handle draws r).1 = dispatch draws g.world.today r x ∧
        (g.handle draws r).2.store = w.backend.store := by
  rcases g.handle_cases draws r with ⟨wait, limited⟩ | admitted
  · exact .inl (refuses_of_limited limited)
  · rw [answer_eq_respond g.service draws aimed, ran] at admitted
    rw [admitted]
    exact .inr ⟨rfl, rfl⟩

/-- What an exchange has done to accounts and invitations: it has opened an account, activated one, or
left them as they were. -/
inductive Enrols (s : Service) (x : Exchange) (m m' : Memory) : Prop where
  | opened (o : Opening) (now : Instant) (n : Store.Newcomer) (opens : x.Opens s o)
    (hashed : n.passwordHash = o.passwordHash)
    (done : m.createAndInvite now n o.invitation = (.ok o.user, m'))
  | activated (segment : List Char) (text : String) (id : Int64)
    (aimed : aim x.request = .action (.activate segment))
    (decoded : Http.Percent.decodeText? segment = some text)
    (status : x.response.status = 204)
    (done : m.activate (Invitation.digestOf text) x.arrival = (.ok id, m'))
  | neither (same : m.SameAccounts m') (other : x.isOpening = false)

/-- What is refused has changed nothing. -/
theorem Refuses.enrols (refuses : g.Refuses draws r) :
    Enrols g.service (g.exchange draws r) g.store (g.handle draws r).2.store := by
  refine .neither (refuses.1 ▸ .refl _) ?_
  have error : (g.handle draws r).1.status ≠ 201 := by
    have := refuses.2
    omega
  simp [Exchange.isOpening, exchange, error]

/-- A registration has opened an account, or is refused. -/
theorem enrols_of_register (aimed : aim r = .action .register) :
    Enrols g.service (g.exchange draws r) g.store (g.handle draws r).2.store := by
  rcases run_register (r := r) (w := g.world) (some (g.world.clock.timer patience)) g.service draws with
    ⟨p, i, now, u, w, form, invited, opened, ran⟩ | failed
  · rcases answered_of_run draws aimed ran with refuses | ⟨response, stored⟩
    · exact refuses.enrols
    obtain ⟨-, -, role, -, user, -⟩ := Memory.createAndInvite_eq_ok.mp opened
    refine .opened ⟨u, (newcomer draws p).passwordHash, i⟩ now (newcomer draws p) ?_ rfl (stored ▸ opened)
    subst user
    refine ⟨aimed, ⟨p, form, rfl, rfl, rfl⟩, rfl, invited, ?_, ?_⟩
    · show (g.handle draws r).1.status = 201
      rw [response, status_dispatch]
      rfl
    · show (g.handle draws r).1.body = _
      rw [response, body_dispatch _ (.inl aimed)]
      rfl
  · exact (refuses_of_failed aimed failed).enrols

/-- An activation has used up an invitation, or is refused. -/
theorem enrols_of_activate {segment : List Char} (aimed : aim r = .action (.activate segment)) :
    Enrols g.service (g.exchange draws r) g.store (g.handle draws r).2.store := by
  rcases run_activate (w := g.world) (some (g.world.clock.timer patience)) segment with
    ⟨text, id, w, decoded, used, ran⟩ | failed
  · rcases answered_of_run draws aimed ran with refuses | ⟨response, stored⟩
    · exact refuses.enrols
    refine .activated segment text id aimed decoded ?_ (stored ▸ used)
    show (g.handle draws r).1.status = 204
    rw [response, status_dispatch]
    rfl
  · exact (refuses_of_failed aimed failed).enrols

/-- **What a request does to accounts and invitations**, its response tells. -/
theorem handle_enrols (g : Gate) (draws : Draws) (r : Request) :
    Enrols g.service (g.exchange draws r) g.store (g.handle draws r).2.store := by
  by_cases registers : aim r = .action .register
  · exact enrols_of_register registers
  by_cases activates : ∃ segment, aim r = .action (.activate segment)
  · obtain ⟨segment, activates⟩ := activates
    exact enrols_of_activate activates
  · refine .neither ?_ (by simp [Exchange.isOpening, exchange, registers])
    rcases g.handle_cases draws r with ⟨wait, limited⟩ | admitted
    · rw [limited]
      exact .refl _
    · rw [admitted]
      exact answer_sameAccounts g.service draws registers fun segment aimed =>
        activates ⟨segment, aimed⟩

/-- **A token is issued** only for an active account with the address that was sent, and to whom knows
its password. -/
theorem handle_issues (g : Gate) (draws : Draws) {r : Request} (aimed : aim r = .action .logIn)
    (success : (g.handle draws r).1.status = 201) :
    ∃ p a c, (g.exchange draws r).Issues g.service p c ∧
      g.store.accounts.values.find? (fun c => c.user.email = p.email) = some a ∧
      a.user.isActive = true ∧ Password.verify p.password a.passwordHash = true ∧
      c.sub = a.user.id := by
  have notRefused : ¬ g.Refuses draws r := by
    rintro ⟨-, error⟩
    omega
  rcases run_logIn (r := r) (w := g.world) (some (g.world.clock.timer patience))
    g.service with ⟨p, a, now, w, form, found, verified, active, -, ran⟩ | failed
  · rcases answered_of_run draws aimed ran with refuses | ⟨response, -⟩
    · exact absurd refuses notRefused
    refine ⟨p, a, g.service.authority.claimsFor a.user.id now, ⟨aimed, form, success, ?_⟩, found,
      active, verified, rfl⟩
    show (g.handle draws r).1.body = _
    rw [response, body_dispatch _ (.inr aimed)]
    rfl
  · exact absurd (refuses_of_failed aimed failed) notRefused

end Gate

end Gatehouse.Service
