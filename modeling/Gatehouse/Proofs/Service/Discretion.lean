import Gatehouse.Proofs.Service.Undisturbed

/-!
A login that fails tells nothing about accounts.

It fails because of what is sent, or because there is no active account with the address and the
password that are sent. Both are answered in a way that the request alone decides.

* `run_logIn_spared`: a login issues a token, or comes to the one response that its request has coming.
* `failed_logins_alike`: so two services, whatever they store, turn a request away alike.
-/

namespace Gatehouse.Service

open Http (Request Response)

/-- Header fields apart from the name of a request. -/
def nameless (h : Http.Headers) : Http.Headers := h.filter fun f => f.1 ≠ "x-request-id"

/-- No mishap befalls the next look-up of credentials. -/
def LooksUpCredentials (w : World) : Prop := (w.backend.script.next "users.get_credentials").1 = none

/-- **The request alone decides how a login fails**: what is stored decides only whether it does. -/
theorem run_logIn_spared (r : Request) :
    ∃ x : Response, ∀ (s : Service) (deadline : Option Nat) (w : World), LooksUpCredentials w →
      ∃ y w', (s.logIn r).respond.run deadline w = (some y, w') ∧ (y.status = 201 ∨ y = x) := by
  obtain ⟨read, taken, -⟩ := payload_idle Login.shape r
  cases read with
  | error e =>
    refine ⟨e.response, fun s deadline w _ => ⟨e.response, w, ?_, .inr rfl⟩⟩
    rw [logIn, Attempt.run_respond_bind, taken, Job.run_done]
  | ok p =>
    obtain ⟨rules, kept, -⟩ := keep_idle (Form.login p.email p.password)
    cases rules with
    | error e =>
      refine ⟨e.response, fun s deadline w _ => ⟨e.response, w, ?_, .inr rfl⟩⟩
      rw [logIn, Attempt.run_respond_bind_ok _ _ taken, Attempt.run_respond_bind, kept, Job.run_done]
    | ok _ =>
      refine ⟨Problem.response .unauthenticated, fun s deadline w spared => ?_⟩
      rw [logIn, Attempt.run_respond_bind_ok _ _ taken, Attempt.run_respond_bind_ok _ _ kept,
        Attempt.run_respond_bind, credentialsFor, Attempt.run_ofFallible, Job.store,
        Job.run_call_spared deadline (e := .store (.credentials p.email)) spared]
      cases found : w.backend.store.accounts.values.find? (fun c => c.user.email = p.email) with
      | none =>
        have answered : (w.answer (.store (.credentials p.email))).1 = .error .notFound := by
          show (w.backend.store.credentials p.email).1 = _
          rw [Store.Memory.credentials, found]
          rfl
        rw [answered]
        exact ⟨_, _, rfl, .inr rfl⟩
      | some c =>
        have answered : (w.answer (.store (.credentials p.email))).1 = .ok c := by
          show (w.backend.store.credentials p.email).1 = _
          rw [Store.Memory.credentials, found]
          rfl
        rw [answered]
        simp only [Job.run_done, Option.map_some, Except.mapError]
        split
        · exact ⟨_, _, rfl, .inl rfl⟩
        · exact ⟨_, _, rfl, .inr rfl⟩

/-- What a login is answered that the limiter admits and that fails. -/
theorem handle_logIn_spared {r : Request} (aimed : aim r = .action .logIn) :
    ∃ x : Response, ∀ (g : Gate) (draws : Draws), (g.screen r).1 = .allowed → LooksUpCredentials g.world →
      (g.handle draws r).1.status ≠ 201 → (g.handle draws r).1 = dispatch draws g.world.today r x := by
  obtain ⟨x, decided⟩ := run_logIn_spared r
  refine ⟨x, fun g draws admitted spared failed => ?_⟩
  obtain ⟨y, w, ran, status | rfl⟩ := decided g.service (some (g.world.clock.timer patience)) g.world spared
  all_goals
    have answered := (congrArg (Job.run _ · g.world) (answer_eq_respond g.service draws aimed)).trans ran
    rw [g.handle_of_allowed draws admitted answered] at failed ⊢
  · rw [Gate.status_dispatch] at failed
    exact absurd status failed
  · rfl

theorem nameless_dispatch (draws : Draws) (now : Instant) {r : Request} {a : Action}
    (aimed : aim r = .action a) (x : Response) :
    nameless (dispatch draws now r x).headers = nameless x.headers := by
  rw [dispatch_of_action draws now aimed]
  simp [nameless]

/-- No active account has an address and a password: nobody has the address, or the password is not the one
that is stored, or what is stored is none, or the account is inactive. -/
def NobodyActive (m : Store.Memory) (p : Login) : Prop :=
  ∀ c ∈ m.accounts.values, c.user.email = p.email → Password.verify p.password c.passwordHash = true →
    c.user.isActive = false

theorem status_ne_of_nobodyActive {g : Gate} {r : Request} {p : Login} (aimed : aim r = .action .logIn)
    (form : Login.shape.decode r.body = .ok p) (nobody : NobodyActive g.store p) (draws : Draws) :
    (g.handle draws r).1.status ≠ 201 := by
  intro success
  obtain ⟨p', c, claims, issues, found, active, verified, -⟩ := g.handle_issues draws aimed success
  obtain rfl : p = p' := Except.ok.inj (form.symm.trans issues.form)
  have email : c.user.email = p.email := by simpa using List.find?_some found
  have inactive := nobody c (List.mem_of_find?_eq_some found) email verified
  exact Bool.false_ne_true (inactive.symm.trans active)

/-- **Failed logins reveal nothing about accounts.** Take a request for a token. -/
theorem failed_logins_alike {r : Request} (aimed : aim r = .action .logIn) :
    -- No token is issued unless there is an active account with the address and the password.
    (∀ (g : Gate) (draws : Draws) (p : Login), Login.shape.decode r.body = .ok p →
      NobodyActive g.store p → (g.handle draws r).1.status ≠ 201) ∧
    -- Say that two services, over any stores, look up credentials without mishap, and that their limiters
    -- decide alike. If neither of them issues a token, both answer with the same status, the same header
    -- fields but for the name of the request, and the same body.
    ∀ (g g' : Gate) (draws draws' : Draws), (g.screen r).1 = (g'.screen r).1 →
      LooksUpCredentials g.world → LooksUpCredentials g'.world →
      (g.handle draws r).1.status ≠ 201 → (g'.handle draws' r).1.status ≠ 201 →
      (g.handle draws r).1.status = (g'.handle draws' r).1.status ∧
        nameless (g.handle draws r).1.headers = nameless (g'.handle draws' r).1.headers ∧
        (g.handle draws r).1.body = (g'.handle draws' r).1.body := by
  refine ⟨fun g draws p form nobody => status_ne_of_nobodyActive aimed form nobody draws, ?_⟩
  intro g g' draws draws' alike spared spared' failed failed'
  obtain ⟨x, same, same'⟩ : ∃ x, (g.handle draws r).1 = dispatch draws g.world.today r x ∧
      (g'.handle draws' r).1 = dispatch draws' g'.world.today r x := by
    cases decided : (g.screen r).1 with
    | allowed =>
      obtain ⟨x, answers⟩ := handle_logIn_spared aimed
      exact ⟨x, answers g draws decided spared failed,
        answers g' draws' (alike.symm.trans decided) spared' failed'⟩
    | limited wait =>
      exact ⟨_, congrArg Prod.fst (g.handle_of_limited draws decided),
        congrArg Prod.fst (g'.handle_of_limited draws' (alike.symm.trans decided))⟩
  rw [same, same']
  refine ⟨?_, ?_, ?_⟩
  · rw [Gate.status_dispatch, Gate.status_dispatch]
  · rw [nameless_dispatch _ _ aimed, nameless_dispatch _ _ aimed]
  · rw [Gate.body_dispatch _ (.inr aimed), Gate.body_dispatch _ (.inr aimed)]

/-- An address that nobody has, and an account that has not been activated, whose password is the one that
is verified when there is no account. -/
theorem failed_logins_alike_decoy :
    let auth : Token.Authority := ⟨[1], "agora", Duration.ofSecs 60, by decide⟩
    let s : Service := ⟨auth, .plain, ⟨"operator", "secret"⟩, defaultInvitationTtl, ""⟩
    let p : Login := ⟨"carol@example.com", "agora-decoy-credential"⟩
    let r : Request := ⟨"POST", "/v1/authentication/token".toList,
      [("content-type", Bytes.utf8 "application/json")], Login.shape.encode p, none⟩
    let role : Role := ⟨1, "user", "", 1⟩
    let carol : Credentials :=
      ⟨⟨1, "carol", p.email, role, false, default⟩, Password.hash (List.replicate 16 0) p.password⟩
    let g : Gate := ⟨s, .everyone, ⟨.start, fun _ => default, default⟩⟩
    let g' : Gate := ⟨s, .everyone, ⟨.start, fun _ => default,
      .ofStore { Store.Memory.seeded with accounts := ⟨[(1, carol)]⟩ }⟩⟩
    (NobodyActive g.store p ∧ NobodyActive g'.store p) ∧
      (g.handle default r).1.status = (g'.handle default r).1.status ∧
      nameless (g.handle default r).1.headers = nameless (g'.handle default r).1.headers ∧
      (g.handle default r).1.body = (g'.handle default r).1.body := by
  intro auth s p r role carol g g'
  have aimed : aim r = .action .logIn := Asks.logIn ⟨rfl, rfl⟩
  have form : Login.shape.decode r.body = .ok p := Login.decode_encode p
  have nobody : NobodyActive g.store p := fun c mem => nomatch mem
  have nobody' : NobodyActive g'.store p := by
    intro c mem _ _
    obtain rfl := List.mem_singleton.mp mem
    rfl
  obtain ⟨fails, alike⟩ := failed_logins_alike aimed
  exact ⟨⟨nobody, nobody'⟩, alike g g' default default rfl rfl rfl (fails g default p form nobody)
    (fails g' default p form nobody')⟩

end Gatehouse.Service
