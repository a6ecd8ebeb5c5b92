import Mathlib.Data.List.Induction
import Gatehouse.Proofs.Account.Invitation
import Gatehouse.Proofs.Form
import Gatehouse.Proofs.Resolver.Calm
import Gatehouse.Proofs.Service.Conversation

/-!
A service that nothing comes in the way of: all clients are admitted, and nothing befalls any call.

* `run_undisturbed`: that lasts, whatever happens to the service.
* `Undisturbed.registers`, `Undisturbed.activates`, `Undisturbed.issues`: a registration, an activation and
  a login succeed if the store can do what they ask of it.
* `Undisturbed.admits`: a protected request is carried out for the user that its token names.
* `run_register_untellable`: a registration fails if the end of its invitation cannot be told.
-/

namespace Gatehouse

namespace Service

open Http (Request Response)
open Store (Memory)

/-! ### What is asked for -/

/-- A request asks for what a path names, by a method. -/
def Asks (r : Request) (method path : String) : Prop := r.method = method ∧ r.path = path.toList

theorem Asks.register {r : Request} (asks : Asks r "POST" "/v1/authentication/user") :
    aim r = .action .register := by
  unfold aim
  rw [asks.1, asks.2]
  decide

theorem Asks.logIn {r : Request} (asks : Asks r "POST" "/v1/authentication/token") :
    aim r = .action .logIn := by
  unfold aim
  rw [asks.1, asks.2]
  decide

/-- The path that an invitation is used up with. -/
theorem ofPath?_activation {token : List Char} (chars : token ≠ []) (noSlash : '/' ∉ token) :
    Resource.ofPath? ("/v1/users/activate/".toList ++ token) = some (.activation token) := by
  have pieces : "/v1/users/activate/".toList ++ token =
      [] ++ '/' :: ("v1".toList ++ '/' :: ("users".toList ++ '/' :: ("activate".toList ++ '/' :: token))) := rfl
  have named : (String.ofList token).isEmpty = false := by
    rw [Bool.eq_false_iff, ne_eq, String.isEmpty_iff]
    intro empty
    exact chars (by simpa using congrArg String.toList empty)
  rw [Resource.ofPath?, pieces, Text.split_append (by decide), Text.split_append (by decide),
    Text.split_append (by decide), Text.split_append (by decide), Text.split_of_not_mem noSlash]
  show Resource.identified .activation (String.ofList token) = _
  rw [Resource.identified, named, String.toList_ofList]
  rfl

theorem Asks.activate {r : Request} {token : String} (chars : token.toList ≠ [])
    (noSlash : '/' ∉ token.toList) (asks : Asks r "PUT" ("/v1/users/activate/" ++ token)) :
    aim r = .action (.activate token.toList) := by
  unfold aim
  rw [asks.1, asks.2, String.toList_append, ofPath?_activation chars noSlash]
  simp [Resource.action?, Resource.actions]

/-- A request carries a record as JSON. -/
structure Carries {α : Type} (shape : Json.Shape α) (r : Request) (a : α) : Prop where
  json : Http.MediaType.isJson r.headers = true
  short : r.body.length ≤ bodyLimit
  record : shape.decode r.body = .ok a

theorem Carries.payload {α : Type} {shape : Json.Shape α} {r : Request} {a : α}
    (carries : Carries shape r a) : (payload shape r).run = .done (.ok a) := by
  rw [Service.payload, carries.json, if_neg (by decide), if_neg (Nat.not_lt.mpr carries.short),
    carries.record]
  rfl

/-- **A registration is read back** from its text. -/
theorem Registration.decode_encode (p : Registration) :
    Registration.shape.decode (Registration.shape.encode p) = .ok p :=
  Json.Shape.decode_encode (.cons (Json.Kind.reads_text _) (.cons (Json.Kind.reads_text _)
    (.cons (Json.Kind.reads_text _) .nil))) (by decide) rfl

/-- **A login is read back** from its text. -/
theorem Login.decode_encode (p : Login) : Login.shape.decode (Login.shape.encode p) = .ok p :=
  Json.Shape.decode_encode (.cons (Json.Kind.reads_text _) (.cons (Json.Kind.reads_text _) .nil))
    (by decide) rfl

/-! ### Attempts in a calm world -/

theorem keep_ok {rules : Except Form.Violation Unit} (kept : rules = .ok ()) :
    (keep rules).run = .done (.ok ()) := by
  rw [kept]
  rfl

section Calm

variable (s : Service) (draws : Draws) {r : Request} (deadline : Option Nat) {w : World}

/-- **A registration fails** before anything is called if the end of its invitation cannot be told. -/
theorem run_register_untellable {p : Registration} (carries : Carries Registration.shape r p)
    (accepted : Form.registration p.username p.email p.password = .ok ())
    (untellable : w.today.after? s.invitationTtl = none) :
    (s.register draws r).respond.run deadline w = (some (Problem.ofInvitation .ttl).response, w) := by
  rw [register, Attempt.run_respond_bind_ok _ _ carries.payload,
    Attempt.run_respond_bind_ok _ _ (keep_ok accepted), Attempt.run_respond_bind, Attempt.run_ofFallible,
    Invitation.register, Job.run_wall, Invitation.make?, untellable]
  rfl

variable (calm : w.backend.script.Calm)

include calm

/-- **A registration succeeds** if the account can be opened and the end of its invitation can be
told. -/
theorem run_register_calm {p : Registration} {i : Invitation} {u : User}
    (carries : Carries Registration.shape r p)
    (accepted : Form.registration p.username p.email p.password = .ok ())
    (invited : Invitation.make? (Invitation.plaintext draws.invitation) w.today s.invitationTtl = some i)
    (opened : (w.backend.store.createAndInvite w.today (newcomer draws p) i).1 = .ok u) :
    (s.register draws r).respond.run deadline w =
      (some (.json 201 (openedBody u (Invitation.plaintext draws.invitation))),
        (w.answer (.store (.createAndInvite (newcomer draws p) i))).2) := by
  have answered : (w.answer (.store (.createAndInvite (newcomer draws p) i))).1 = .ok u := opened
  rw [register, Attempt.run_respond_bind_ok _ _ carries.payload,
    Attempt.run_respond_bind_ok _ _ (keep_ok accepted), Attempt.run_respond_bind, Attempt.run_ofFallible,
    Invitation.register, Job.run_wall, invited]
  dsimp only
  rw [Job.run_call_calm deadline calm, ← newcomer, answered]
  rfl

/-- **An activation succeeds** if the store can use up the invitation. -/
theorem run_activate_calm {segment : List Char} {text : String} {id : Int64}
    (decoded : Http.Percent.decodeText? segment = some text)
    (used : (w.backend.store.activate (Invitation.digestOf text) w.today).1 = .ok id) :
    (activate segment).respond.run deadline w =
      (some (.empty 204), (w.answer (.store (.activate (Invitation.digestOf text) w.today))).2) := by
  have answered : (w.answer (.store (.activate (Invitation.digestOf text) w.today))).1 = .ok id := used
  have taken : (segmentText segment).run = .done (.ok text) := by
    rw [segmentText, decoded]
    rfl
  rw [activate, Attempt.run_respond_bind_ok _ _ taken, Attempt.run_respond_bind, Attempt.run_ofFallible,
    Invitation.activate, Job.run_wall, Job.run_call_calm deadline calm, answered]
  rfl

/-- **A login succeeds** for an active account with the right password. -/
theorem run_logIn_calm {p : Login} {c : Credentials} (carries : Carries Login.shape r p)
    (accepted : Form.login p.email p.password = .ok ())
    (found : w.backend.store.accounts.values.find? (fun c => c.user.email = p.email) = some c)
    (verified : Password.verify p.password c.passwordHash = true) (active : c.user.isActive = true) :
    (s.logIn r).respond.run deadline w =
      (some (.json 201 (issuedBody (s.authority.issueFor c.user.id (Int64.ofInt w.today.secs)))),
        (w.answer (.store (.credentials p.email))).2) := by
  have answered : (w.answer (.store (.credentials p.email))).1 = .ok c := by
    show (w.backend.store.credentials p.email).1 = _
    rw [Memory.credentials, found]
    rfl
  rw [logIn, Attempt.run_respond_bind_ok _ _ carries.payload,
    Attempt.run_respond_bind_ok _ _ (keep_ok accepted), Attempt.run_respond_bind, credentialsFor,
    Attempt.run_ofFallible, Job.store, Job.run_call_calm deadline calm, answered]
  simp only [Job.run_done, Option.map_some, Except.mapError, verified, active, Bool.and_self, if_true]
  rfl

end Calm

/-! ### Gates -/

namespace Gate

/-- All clients are admitted, and nothing is going to befall any call. -/
structure Undisturbed (g : Gate) : Prop where
  admission : g.admission = .everyone
  calm : g.world.backend.script.Calm

/-- The cache of a gate holds what it should. -/
def Faithful (g : Gate) : Prop := g.world.backend.cache.Faithful

variable {g : Gate} (draws : Draws) (r : Request)

/-- A gate that admits everyone is the same after it has decided on a request. -/
theorem screen_of_everyone (everyone : g.admission = .everyone) : g.screen r = (.allowed, g) := by
  obtain ⟨service, admission, world⟩ := g
  subst everyone
  rfl

/-- A request has left its traces in the world of the gate alone, by its job. -/
theorem handle_continues (g : Gate) : Job.Continues g.world (g.handle draws r).2.world := by
  rcases g.handle_cases draws r with ⟨wait, limited⟩ | admitted
  · rw [limited]
    exact Job.kept_continues.refl g.world
  · rw [admitted]
    exact Job.continues_run _ _ _

theorem handle_admission (everyone : g.admission = .everyone) :
    (g.handle draws r).2.admission = .everyone := by
  rw [g.handle_of_allowed draws (congrArg Prod.fst (screen_of_everyone r everyone)) rfl,
    screen_of_everyone r everyone]
  exact everyone

theorem proceed_undisturbed {t : List Exchange × Gate} (undisturbed : t.2.Undisturbed) (o : Occurrence) :
    (proceed t o).2.Undisturbed := by
  cases o with
  | request draws r =>
    exact ⟨handle_admission draws r undisturbed.admission,
      (t.2.handle_continues draws r).calm undisturbed.calm⟩
  | wait d => exact ⟨undisturbed.admission, undisturbed.calm⟩
  | sweep =>
    have same : t.2.sweep = t.2 := by rw [Gate.sweep, undisturbed.admission]
    show t.2.sweep.Undisturbed
    rw [same]
    exact undisturbed

theorem proceed_faithful {t : List Exchange × Gate} (faithful : t.2.Faithful) (o : Occurrence) :
    (proceed t o).2.Faithful := by
  cases o with
  | request draws r => exact (t.2.handle_continues draws r).faithful faithful
  | wait d => exact faithful
  | sweep =>
    show t.2.sweep.world.backend.cache.Faithful
    rw [Gate.sweep_world]
    exact faithful

theorem run_undisturbed (undisturbed : g.Undisturbed) (occurrences : List Occurrence) :
    (g.run occurrences).2.Undisturbed := by
  induction occurrences using List.reverseRecOn with
  | nil => exact undisturbed
  | append_singleton occurrences o ih => exact g.run_concat occurrences o ▸ proceed_undisturbed ih o

theorem run_faithful (faithful : g.Faithful) (occurrences : List Occurrence) :
    (g.run occurrences).2.Faithful := by
  induction occurrences using List.reverseRecOn with
  | nil => exact faithful
  | append_singleton occurrences o ih => exact g.run_concat occurrences o ▸ proceed_faithful ih o

theorem run_service (occurrences : List Occurrence) : (g.run occurrences).2.service = g.service := by
  induction occurrences using List.reverseRecOn with
  | nil => rfl
  | append_singleton occurrences o ih =>
    rw [g.run_concat, proceed_service, ih]

/-- Whatever happens, the wall clock goes on as it would. -/
theorem run_wall (occurrences : List Occurrence) :
    (g.run occurrences).2.world.wall = g.world.wall := by
  induction occurrences using List.reverseRecOn with
  | nil => rfl
  | append_singleton occurrences o ih =>
    rw [g.run_concat, ← ih]
    generalize g.run occurrences = t
    cases o with
    | request draws r => exact (t.2.handle_continues draws r).wall
    | wait d => rfl
    | sweep => exact congrArg World.wall (Gate.sweep_world t.2)

/-! ### One request -/

variable {draws r}

variable (draws) in
/-- The response that an attempt comes to is the response to the request. -/
theorem Undisturbed.handle_eq (undisturbed : g.Undisturbed) {a : Action} (aimed : aim r = .action a)
    {x : Response} {w : World}
    (ran : (g.service.perform draws r a).respond.run (some (g.world.clock.timer patience)) g.world =
      (some x, w)) :
    g.handle draws r = (dispatch draws g.world.today r x, { g with world := w }) := by
  have screened := screen_of_everyone r undisturbed.admission
  rw [← answer_eq_respond g.service draws aimed] at ran
  rw [g.handle_of_allowed draws (congrArg Prod.fst screened) ran, screened]
  rfl

/-- **A registration is answered** with the account and the plaintext of its invitation. -/
theorem Undisturbed.registers (undisturbed : g.Undisturbed) {p : Registration} {o : Opening} {m : Memory}
    (asks : Asks r "POST" "/v1/authentication/user") (carries : Carries Registration.shape r p)
    (accepted : Form.registration p.username p.email p.password = .ok ())
    (hashed : o.passwordHash = Password.hash draws.salt p.password)
    (invited : Invitation.make? (Invitation.plaintext draws.invitation) g.world.today
      g.service.invitationTtl = some o.invitation)
    (opened : g.store.createAndInvite g.world.today (newcomer draws p) o.invitation = (.ok o.user, m)) :
    (g.exchange draws r).Opens g.service o ∧ (g.handle draws r).2.store = m := by
  have aimed := asks.register
  have handled := undisturbed.handle_eq draws aimed (run_register_calm g.service draws
    (some (g.world.clock.timer patience)) undisturbed.calm carries accepted invited
    (congrArg Prod.fst opened))
  obtain ⟨-, -, role, -, user, -⟩ := Memory.createAndInvite_eq_ok.mp opened
  refine ⟨⟨aimed, ⟨p, carries.record, ?_, ?_, hashed⟩, ?_, invited, ?_, ?_⟩, ?_⟩
  · rw [user]
    rfl
  · rw [user]
    rfl
  · rw [user]
  · rw [exchange, handled]
    exact status_dispatch ..
  · rw [exchange, handled]
    exact body_dispatch _ (.inl aimed) _
  · rw [handled]
    exact congrArg Prod.snd opened

variable (draws) in
/-- **An activation is answered** without a body. -/
theorem Undisturbed.activates (undisturbed : g.Undisturbed) {random : Bytes} {id : Int64} {m : Memory}
    (bytes : random ≠ [])
    (asks : Asks r "PUT" ("/v1/users/activate/" ++ Invitation.plaintext random))
    (used : g.store.activate (Invitation.digestOf (Invitation.plaintext random)) g.world.today = (.ok id, m)) :
    (g.handle draws r).1.status = 204 ∧ (g.handle draws r).2.store = m := by
  have aimed := asks.activate (Invitation.plaintext_ne_nil bytes) Invitation.slash_not_mem_plaintext
  have handled := undisturbed.handle_eq draws aimed (run_activate_calm
    (some (g.world.clock.timer patience)) undisturbed.calm Invitation.decodeText?_plaintext
    (congrArg Prod.fst used))
  rw [handled]
  exact ⟨status_dispatch .., congrArg Prod.snd used⟩

variable (draws) in
/-- **A login is answered** with a token for the account. -/
theorem Undisturbed.issues (undisturbed : g.Undisturbed) {p : Login} {c : Credentials}
    (asks : Asks r "POST" "/v1/authentication/token") (carries : Carries Login.shape r p)
    (accepted : Form.login p.email p.password = .ok ())
    (found : g.store.accounts.values.find? (fun c => c.user.email = p.email) = some c)
    (verified : Password.verify p.password c.passwordHash = true) (active : c.user.isActive = true) :
    (g.exchange draws r).Issues g.service p
        (g.service.authority.claimsFor c.user.id (Int64.ofInt g.world.today.secs)) ∧
      (g.handle draws r).2.store = g.store := by
  have aimed := asks.logIn
  have handled := undisturbed.handle_eq draws aimed (run_logIn_calm g.service
    (some (g.world.clock.timer patience)) undisturbed.calm carries accepted found verified active)
  refine ⟨⟨aimed, carries.record, ?_, ?_⟩, ?_⟩
  · rw [exchange, handled]
    exact status_dispatch ..
  · rw [exchange, handled]
    exact body_dispatch _ (.inr aimed) _
  · rw [handled]
    exact (g.store.perform_of_reads g.world.today (c := .credentials p.email) trivial)

/-- A protected request is carried out for a user: the user is resolved, and then the handler runs to the
response. -/
def Admits (g : Gate) (draws : Draws) (r : Request) (body : User → Attempt Response) (u : User) : Prop :=
  ∃ w x w', (g.service.resolver.resolve u.id).run (some (g.world.clock.timer patience)) g.world =
      (some (.ok u), w) ∧
    (body u).respond.run (some (g.world.clock.timer patience)) w = (x, w') ∧
    g.handle draws r = (dispatch draws g.world.today r (x.getD (.empty 408)), { g with world := w' })

/-- **A protected request is carried out** for the user that its token names, if the user is
stored. -/
theorem Undisturbed.admits (undisturbed : g.Undisturbed) (faithful : g.Faithful) {a : Action}
    {body : User → Attempt Response} (aimed : aim r = .action a) (handled : Handles g.service r a body)
    {c : Token.Claims} (presents : Presents g.service r g.world.today c) {account : Credentials}
    (found : g.store.accounts.find? c.sub = some account) (own : account.user.id = c.sub) :
    ∃ u, u.id = c.sub ∧ g.Admits draws r body u := by
  have screened := screen_of_everyone r undisturbed.admission
  obtain ⟨u, w, same, resolved⟩ := g.service.resolver.resolve_calm
    (some (g.world.clock.timer patience)) undisturbed.calm faithful found own
  refine ⟨u, same, w, _, _, same ▸ resolved, rfl, ?_⟩
  rw [handle_of_presents draws g aimed handled (congrArg Prod.fst screened) presents resolved rfl,
    screened]

end Gate

end Service

end Gatehouse
