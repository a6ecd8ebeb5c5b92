import Gatehouse.Proofs.Service.AccountFlow

/-!
Whether a login takes the credentials that an account was opened with.

The rules for a registration bound the length of a password; those for a login also ask that it is not
blank. So an account may be opened with a password that its owner can never log in with.

* `form_of_created`: an account is opened by a form that keeps the rules for a registration.
* `status_ne_of_kept`: a form that keeps the rules for a login is not a bad request.
* `handle_logIn_broken`: one that breaks them is, and nobody is asked.
* `own_credentials_taken`: a login takes what an account was opened with, unless the password is blank.
-/

namespace Gatehouse.Service

open Http (Request Response)

variable {g : Gate} {r : Request}

/-- **An account is opened by a form that keeps the rules.** -/
theorem form_of_created {draws : Draws} (aimed : aim r = .action .register)
    (created : (g.handle draws r).1.status = 201) :
    ∃ p, Registration.shape.decode r.body = .ok p ∧
      Form.registration p.username p.email p.password = .ok () := by
  have notRefused : ¬ g.Refuses draws r := by
    rintro ⟨-, error⟩
    omega
  have accepted : ¬ Attempt.Failed g.world
      ((g.service.register draws r).respond.run (some (g.world.clock.timer patience)) g.world) :=
    fun failed => notRefused (Gate.refuses_of_failed aimed failed)
  unfold register at accepted
  rcases (payload_idle Registration.shape r).run_bind _ with failed | ⟨p, taken, goes⟩
  · exact absurd failed accepted
  rw [goes] at accepted
  rcases (keep_idle (Form.registration p.username p.email p.password)).run_bind _ with
    failed | ⟨_, kept, -⟩
  · exact absurd failed accepted
  · exact ⟨p, decode_of_payload taken, rules_of_keep kept⟩

variable {p : Login}

/-- **A login whose form keeps the rules is not a bad request**, whatever is stored and whatever befalls it. -/
theorem status_ne_of_kept (aimed : aim r = .action .logIn) (carries : Carries Login.shape r p)
    (kept : Form.login p.email p.password = .ok ()) (draws : Draws) :
    (g.handle draws r).1.status ≠ 400 := by
  rcases g.handle_cases draws r with ⟨wait, limited⟩ | admitted
  · rw [limited, Gate.status_dispatch]
    exact (by decide : (429 : Nat) ≠ 400)
  rw [admitted, Gate.status_dispatch, answer_eq_respond g.service draws aimed]
  show (((g.service.logIn r).respond.run _ _).1.getD (.empty 408)).status ≠ 400
  rw [logIn, Attempt.run_respond_bind_ok _ _ carries.payload, Attempt.run_respond_bind_ok _ _ (keep_ok kept),
    Attempt.run_respond_bind, credentialsFor, Attempt.run_ofFallible]
  rcases (Job.store (.credentials p.email)).run _ g.world with ⟨_ | e | c, w⟩
  · exact (by decide : (408 : Nat) ≠ 400)
  · cases e with
    | notFound => exact (by decide : (401 : Nat) ≠ 400)
    | conflict what => exact (by decide : (409 : Nat) ≠ 400)
    | timeout limit => exact (by decide : (500 : Nat) ≠ 400)
    | database cause => exact (by decide : (500 : Nat) ≠ 400)
  · simp only [Option.map_some, Except.mapError]
    split
    · exact (by decide : (201 : Nat) ≠ 400)
    · exact (by decide : (401 : Nat) ≠ 400)

/-- **A login whose form breaks the rules is told which one**, and nothing is called. -/
theorem handle_logIn_broken (aimed : aim r = .action .logIn) (carries : Carries Login.shape r p)
    {v : Form.Violation} (broken : Form.login p.email p.password = .error v) (draws : Draws)
    (admitted : (g.screen r).1 = .allowed) :
    (g.handle draws r).1 = dispatch draws g.world.today r (Problem.badRequest v.message).response ∧
      (g.handle draws r).2.world = g.world := by
  have refused : (keep (Form.login p.email p.password)).run =
      .done (.error (.problem (.badRequest v.message))) := by
    rw [broken]
    rfl
  have ran : (g.service.answer draws r).run (some (g.world.clock.timer patience)) g.world =
      (some (Problem.badRequest v.message).response, g.world) := by
    rw [answer_eq_respond g.service draws aimed]
    show (g.service.logIn r).respond.run _ _ = _
    rw [logIn, Attempt.run_respond_bind_ok _ _ carries.payload, Attempt.run_respond_bind, refused,
      Job.run_done]
    rfl
  rw [g.handle_of_allowed draws admitted ran]
  exact ⟨rfl, rfl⟩

/-- **A login takes what an account was opened with, unless the password is blank.** -/
theorem own_credentials_taken (username address password : String) :
    -- If the rules for a registration let this pass, those for a login refuse it if the password is blank, and
    -- for nothing else.
    (Form.registration username address password = .ok () →
      Form.login address password =
        if Text.isBlankText password then .error (.missing .password) else .ok ()) ∧
    -- So take an account that has been opened with this, and a login with the same address and the same
    -- password, at any time.
    ∀ (g : Gate) (draws : Draws) (r : Request), aim r = .action .register →
      Registration.shape.decode r.body = .ok ⟨username, address, password⟩ →
      (g.handle draws r).1.status = 201 →
      ∀ (g' : Gate) (draws' : Draws) (r' : Request), aim r' = .action .logIn →
        Carries Login.shape r' ⟨address, password⟩ →
        -- If the password is not blank, the login may fail, but not as a bad request.
        (Text.isBlankText password = false → (g'.handle draws' r').1.status ≠ 400) ∧
        -- If it is blank, the login is a bad request as soon as it is admitted, and nobody is asked.
        (Text.isBlankText password = true → (g'.screen r').1 = .allowed →
          (g'.handle draws' r').1 = dispatch draws' g'.world.today r'
              (Problem.badRequest "password is required").response ∧
            (g'.handle draws' r').2.world = g'.world) := by
  have rules : Form.registration username address password = .ok () →
      Form.login address password =
        if Text.isBlankText password then .error (.missing .password) else .ok () := by
    intro kept
    rw [Form.login_eq_of_registration kept, Form.required, Form.demand]
    cases Text.isBlankText password <;> rfl
  refine ⟨rules, fun g draws r aimed carried created g' draws' r' aimed' carries => ?_⟩
  obtain ⟨p, decoded, kept⟩ := form_of_created aimed created
  obtain rfl := Except.ok.inj (carried.symm.trans decoded)
  have login := rules kept
  constructor
  · intro notBlank
    rw [if_neg (by simp [notBlank])] at login
    exact status_ne_of_kept aimed' carries login draws'
  · intro blank admitted
    rw [if_pos blank] at login
    exact handle_logIn_broken aimed' carries login draws' admitted

/-- A registration, and a login before the account is active. -/
theorem own_credentials_taken_carol :
    let auth : Token.Authority := ⟨[1], "agora", Duration.ofSecs 60, by decide⟩
    let g : Gate := ⟨⟨auth, .plain, ⟨"operator", "secret"⟩, defaultInvitationTtl, ""⟩, .everyone,
      ⟨.start, fun _ => default, default⟩⟩
    let p : Registration := ⟨"carol", "carol@example.com", " ! "⟩
    let json : Http.Headers := [("content-type", Bytes.utf8 "application/json")]
    let r : Request := ⟨"POST", "/v1/authentication/user".toList, json, Registration.shape.encode p, none⟩
    let r' : Request := ⟨"POST", "/v1/authentication/token".toList, json,
      Login.shape.encode ⟨p.email, p.password⟩, none⟩
    (Form.registration p.username p.email p.password = .ok () ∧
        Form.login p.email p.password = .ok ()) ∧
      (g.handle default r).1.status = 201 ∧
      ((g.handle default r).2.handle default r').1.status ≠ 400 := by
  intro auth g p json r r'
  have undisturbed : g.Undisturbed := ⟨rfl, Script.calm_empty⟩
  have regular : Regular g.store := ⟨rfl, Table.apart_empty⟩
  have asks : Asks r "POST" "/v1/authentication/user" := ⟨rfl, rfl⟩
  have carries : Carries Registration.shape r p := ⟨by decide, by decide, p.decode_encode⟩
  have carries' : Carries Login.shape r' ⟨p.email, p.password⟩ :=
    ⟨by decide, by decide, Login.decode_encode _⟩
  have kept : Form.registration p.username p.email p.password = .ok () := by decide
  have tellable : g.world.today.after? defaultInvitationTtl =
      some ⟨259200, 0, by decide, by decide, by decide, by decide⟩ := by decide
  obtain ⟨o, opens, -⟩ := register_step default regular undisturbed Cache.Memory.faithful_empty asks carries
    kept (by decide) (by decide) tellable
  have created : (g.handle default r).1.status = 201 := opens.status
  obtain ⟨forms, logins⟩ := own_credentials_taken p.username p.email p.password
  refine ⟨⟨kept, (forms kept).trans (if_neg (by decide))⟩, created, ?_⟩
  exact (logins g default r asks.register carries.record created _ default r' (Asks.logIn ⟨rfl, rfl⟩)
    carries').1 (by decide)

/-- The same with a password of three blanks: the account is opened, and the login is a bad request. -/
theorem own_credentials_taken_blank :
    let auth : Token.Authority := ⟨[1], "agora", Duration.ofSecs 60, by decide⟩
    let g : Gate := ⟨⟨auth, .plain, ⟨"operator", "secret"⟩, defaultInvitationTtl, ""⟩, .everyone,
      ⟨.start, fun _ => default, default⟩⟩
    let p : Registration := ⟨"carol", "carol@example.com", "   "⟩
    let json : Http.Headers := [("content-type", Bytes.utf8 "application/json")]
    let r : Request := ⟨"POST", "/v1/authentication/user".toList, json, Registration.shape.encode p, none⟩
    let r' : Request := ⟨"POST", "/v1/authentication/token".toList, json,
      Login.shape.encode ⟨p.email, p.password⟩, none⟩
    (Form.registration p.username p.email p.password = .ok () ∧
        Form.login p.email p.password = .error (.missing .password)) ∧
      (g.handle default r).1.status = 201 ∧
      ((g.handle default r).2.handle default r').1.status = 400 := by
  intro auth g p json r r'
  have undisturbed : g.Undisturbed := ⟨rfl, Script.calm_empty⟩
  have regular : Regular g.store := ⟨rfl, Table.apart_empty⟩
  have asks : Asks r "POST" "/v1/authentication/user" := ⟨rfl, rfl⟩
  have carries : Carries Registration.shape r p := ⟨by decide, by decide, p.decode_encode⟩
  have carries' : Carries Login.shape r' ⟨p.email, p.password⟩ :=
    ⟨by decide, by decide, Login.decode_encode _⟩
  have kept : Form.registration p.username p.email p.password = .ok () := by decide
  have broken : Form.login p.email p.password = .error (.missing .password) := by decide
  have tellable : g.world.today.after? defaultInvitationTtl =
      some ⟨259200, 0, by decide, by decide, by decide, by decide⟩ := by decide
  refine ⟨⟨kept, broken⟩, ?_, ?_⟩
  · obtain ⟨o, opens, -⟩ := register_step default regular undisturbed Cache.Memory.faithful_empty asks carries
      kept (by decide) (by decide) tellable
    exact opens.status
  · have everyone := Gate.handle_admission default r undisturbed.admission
    rw [(handle_logIn_broken (Asks.logIn ⟨rfl, rfl⟩) carries' broken default
      (congrArg Prod.fst (Gate.screen_of_everyone r' everyone))).1]
    exact Gate.status_dispatch ..

end Gatehouse.Service
