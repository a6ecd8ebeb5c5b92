import Gatehouse.Proofs.Credential.Bearer
import Gatehouse.Proofs.Resolver
import Gatehouse.Proofs.Service.Attempt
import Gatehouse.Proofs.Token.RoundTrip

/-!
The gate before the protected actions.

* `Handles`: the seven actions that are carried out on behalf of a principal, and what each does once
  the principal is known.
* `Presents`: a request bears a token that is accepted at an instant.
* `bearer_gate`: a request that presents nothing is turned away before anything is called, and all
  such requests in one way; one that presents claims for a user that does not exist is turned away in
  the same way, one whose user cannot be looked up fails; and the action begins in no other case.
-/

namespace Gatehouse

/-- A token is never refused for a reason that lies with the authority. -/
theorem Problem.ofToken_of_validate {auth : Token.Authority} {token : String} {now : Int64}
    {e : Token.Error} (refused : auth.validate token now = .error e) :
    ofToken e = .unauthenticated := by
  unfold Token.Authority.validate at refused
  split at refused
  · rename_i header claims signature _
    rcases Token.Authority.readSegment_eq_ok_or _ Token.Header.shape header with ⟨h, hh⟩ | hh
    · simp only [hh] at refused
      split at refused
      · obtain rfl := Except.error.inj refused
        rfl
      split at refused
      · obtain rfl := Except.error.inj refused
        rfl
      rcases Token.Authority.readSegment_eq_ok_or _ Token.Claims.shape claims with ⟨c, hc⟩ | hc
      · rw [hc] at refused
        rcases c.check_eq_ok_or auth.service now with ok | ⟨e', he', error⟩
        · exact nomatch ok.symm.trans refused
        · obtain rfl := Except.error.inj (error.symm.trans refused)
          simp only [List.mem_cons, List.not_mem_nil, or_false] at he'
          rcases he' with rfl | rfl | rfl | rfl <;> rfl
      · rw [hc] at refused
        obtain rfl := Except.error.inj refused
        rfl
    · rw [hh] at refused
      obtain rfl := Except.error.inj refused
      rfl
  · obtain rfl := Except.error.inj refused
    rfl

namespace Service

open Http (Request Response)

/-! ### Protected actions -/

/-- What a protected action does once its principal is known. -/
inductive Handles (s : Service) (r : Request) : Action → (User → Attempt Response) → Prop where
  | showUser (id : List Char) : Handles s r (.showUser id) fun u => s.showUser u id
  | follow (id : List Char) : Handles s r (.follow id) fun u => Service.follow u id
  | unfollow (id : List Char) : Handles s r (.unfollow id) fun u => Service.unfollow u id
  | createPost : Handles s r .createPost fun u => Service.createPost u r
  | showPost (id : List Char) : Handles s r (.showPost id) fun _ => Service.showPost id
  | editPost (id : List Char) : Handles s r (.editPost id) fun u => Service.editPost u id r
  | deletePost (id : List Char) : Handles s r (.deletePost id) fun u => Service.deletePost u id

variable {s : Service} {r : Request} {a : Action} {body : User → Attempt Response}

/-- Every one of them looks for its principal before anything else. -/
theorem Handles.perform_eq (handled : Handles s r a body) (draws : Draws) :
    s.perform draws r a = s.principal r >>= body := by
  cases handled <;> rfl

theorem Handles.answer_eq (handled : Handles s r a body) (aimed : aim r = .action a)
    (draws : Draws) :
    s.answer draws r = (s.principal r).run.bind fun
      | .ok u => (body u).respond
      | .error e => .done e.response := by
  rw [answer_eq_respond s draws aimed, handled.perform_eq, Attempt.respond_bind]
  congr 1
  funext x
  cases x <;> rfl

/-! ### Claims that are presented -/

/-- A request bears a token that is accepted at an instant, and its claims. -/
def Presents (s : Service) (r : Request) (now : Instant) (c : Token.Claims) : Prop :=
  ∃ token, Credential.BearerField r.headers token ∧
    s.authority.validate token (Int64.ofInt now.secs) = .ok c

/-- A token that the service has issued can be presented as long as its claims hold. -/
theorem presents_generate {now : Instant} {c : Token.Claims}
    (first : r.headers.first? "authorization" =
      some (Json.ascii "Bearer " ++ Json.ascii (s.authority.generate c)))
    (holds : c.check s.authority.service (Int64.ofInt now.secs) = .ok c) : Presents s r now c := by
  obtain ⟨chars, visible⟩ := s.authority.generate_visible c
  exact ⟨s.authority.generate c, Credential.bearerField_of_visible chars visible first,
    (s.authority.validate_generate_eq_check c _).trans holds⟩

/-- The response to a request without a principal: it depends on the name of the request and on
whether the method is HEAD. -/
def unauthorized (draws : Draws) (now : Instant) (r : Request) : Response :=
  ⟨401, [("content-type", Bytes.utf8 "application/json"), ("x-request-id", requestName draws now r)],
    if r.method = "HEAD" then [] else Bytes.utf8 "\x7b\"error\":\"unauthorized\"\x7d"⟩

theorem dispatch_of_action (draws : Draws) (now : Instant) (aimed : aim r = .action a)
    (x : Response) :
    dispatch draws now r x = ⟨x.status, x.headers ++ [("x-request-id", requestName draws now r)],
      if r.method = "HEAD" then [] else x.body⟩ := by
  simp only [dispatch, aimed]
  split <;> rfl

theorem dispatch_unauthenticated (draws : Draws) (now : Instant) (aimed : aim r = .action a) :
    dispatch draws now r (Problem.response .unauthenticated) = unauthorized draws now r := by
  rw [dispatch_of_action draws now aimed]
  have response : Problem.response .unauthenticated =
      ⟨401, [("content-type", Bytes.utf8 "application/json")],
        Bytes.utf8 "\x7b\"error\":\"unauthorized\"\x7d"⟩ := by decide
  rw [response]
  rfl

/-- Where nothing is presented, the principal is not even looked for. -/
theorem run_principal_of_not_presents (deadline : Option Nat) {w : World}
    (none : ∀ c, ¬ Presents s r w.today c) :
    ∃ e : Refusal, e.response = Problem.response .unauthenticated ∧
      (s.principal r).run.run deadline w = (some (.error e), w) := by
  rw [principal_run]
  cases field : Credential.bearer r.headers with
  | error e => cases e <;> exact ⟨_, rfl, rfl⟩
  | ok token =>
    cases checked : s.authority.validate token (Int64.ofInt w.today.secs) with
    | ok c => exact absurd ⟨token, Credential.bearer_eq_ok_iff.mp field, checked⟩ (none c)
    | error e =>
      refine ⟨.problem (.ofToken e), ?_, ?_⟩
      · rw [Problem.ofToken_of_validate checked]
        rfl
      · simp only [Job.run, checked]

/-- Where claims are presented, the job reads the clock, resolves their user, and goes on for that
user. -/
theorem answer_of_presents (aimed : aim r = .action a) (handled : Handles s r a body) (draws : Draws)
    {now : Instant} {c : Token.Claims} (presents : Presents s r now c) :
    ∃ k, s.answer draws r = .wall k ∧ k now = (s.resolver.resolve c.sub).bind fun
      | .ok u => (body u).respond
      | .error e => .done (Problem.ofResolution e).response := by
  obtain ⟨token, field, checked⟩ := presents
  rw [handled.answer_eq aimed, principal_run, Credential.bearer_eq_ok_iff.mpr field]
  refine ⟨_, rfl, ?_⟩
  simp only [checked, Job.bind_assoc]
  congr 1
  funext x
  cases x <;> rfl

theorem status_ofResolution {e : Resolver.Error} (h : e ≠ .store .notFound) :
    (Problem.ofResolution e).status = 500 := by
  unfold Problem.ofResolution
  split
  · exact absurd rfl h
  · rfl

/-! ### The gate -/

variable (draws : Draws) (g : Gate)

/-- A request that presents nothing is turned away, and nothing has happened but that it was
counted. -/
theorem handle_of_not_presents (aimed : aim r = .action a) (handled : Handles g.service r a body)
    (admitted : (g.screen r).1 = .allowed) (none : ∀ c, ¬ Presents g.service r g.world.today c) :
    g.handle draws r = (unauthorized draws g.world.today r, (g.screen r).2) := by
  obtain ⟨e, response, ran⟩ :=
    run_principal_of_not_presents (some (g.world.clock.timer patience)) none
  have answered : (g.service.answer draws r).run (some (g.world.clock.timer patience)) g.world =
      (some e.response, g.world) := by
    rw [handled.answer_eq aimed, Job.run_bind, ran]
    rfl
  rw [g.handle_of_allowed draws admitted answered, Option.getD_some, response,
    dispatch_unauthenticated _ _ aimed]
  rfl

/-- What is left to do once the user is resolved that the claims of a request are for. -/
def afterResolution (body : User → Attempt Response) (deadline : Option Nat) :
    Option (Except Resolver.Error User) → World → Option Response × World
  | none, w => (none, w)
  | some (.error e), w => (some (Problem.ofResolution e).response, w)
  | some (.ok u), w => (body u).respond.run deadline w

theorem handle_of_presents (aimed : aim r = .action a) (handled : Handles g.service r a body)
    (admitted : (g.screen r).1 = .allowed) {c : Token.Claims}
    (presents : Presents g.service r g.world.today c) {outcome : Option (Except Resolver.Error User)}
    {w w' : World} {x : Option Response}
    (resolved : (g.service.resolver.resolve c.sub).run (some (g.world.clock.timer patience)) g.world =
      (outcome, w))
    (ended : afterResolution body (some (g.world.clock.timer patience)) outcome w = (x, w')) :
    g.handle draws r = (dispatch draws g.world.today r (x.getD (.empty 408)),
      { (g.screen r).2 with world := w' }) := by
  obtain ⟨k, starts, goes⟩ := answer_of_presents aimed handled draws presents
  refine g.handle_of_allowed draws admitted (Eq.trans ?_ ended)
  rw [starts, Job.run, goes, Job.run_bind, resolved]
  rcases outcome with _ | _ | u <;> rfl

/-- **The bearer gate.** Take a request for a protected action that the limiter admits. -/
theorem bearer_gate (aimed : aim r = .action a) (handled : Handles g.service r a body)
    (admitted : (g.screen r).1 = .allowed) :
    -- Nothing is presented: the response is fixed, and nothing has been called or changed.
    ((∀ c, ¬ Presents g.service r g.world.today c) →
      g.handle draws r = (unauthorized draws g.world.today r, (g.screen r).2) ∧
      (g.screen r).2.world = g.world ∧
      -- Other data, another path and another body make no difference.
      ∀ (g' : Gate) (r' : Request) (a' : Action) (body' : User → Attempt Response),
        aim r' = .action a' → Handles g'.service r' a' body' → (g'.screen r').1 = .allowed →
        g'.service.authority = g.service.authority → g'.world.today = g.world.today →
        r'.headers = r.headers → r'.method = r.method →
        (g'.handle draws r').1 = (g.handle draws r).1) ∧
    -- Claims are presented: their user is resolved, and only that is done before it is decided.
    ∀ c, Presents g.service r g.world.today c →
      ∃ outcome w, (g.service.resolver.resolve c.sub).run
          (some (g.world.clock.timer patience)) g.world = (outcome, w) ∧
        Resolver.Spares g.world w ∧
        match outcome with
        | some (.error e) =>
          (g.handle draws r).2 = { (g.screen r).2 with world := w } ∧
          if e = .store .notFound then (g.handle draws r).1 = unauthorized draws g.world.today r
          else (g.handle draws r).1.status = 500
        | some (.ok u) =>
          ∃ x w', (body u).respond.run (some (g.world.clock.timer patience)) w = (x, w') ∧
            g.handle draws r = (dispatch draws g.world.today r (x.getD (.empty 408)),
              { (g.screen r).2 with world := w' })
        | none =>
          (g.handle draws r).2 = { (g.screen r).2 with world := w } ∧
          (g.handle draws r).1.status = 408 := by
  refine ⟨fun none => ?_, fun c presents => ?_⟩
  · have turned := handle_of_not_presents draws g aimed handled admitted none
    refine ⟨turned, rfl, fun g' r' a' body' aimed' handled' admitted' auth now headers method => ?_⟩
    have none' : ∀ c, ¬ Presents g'.service r' g'.world.today c := by
      intro c
      rw [Presents, auth, now, headers]
      exact none c
    rw [turned, handle_of_not_presents draws g' aimed' handled' admitted' none', unauthorized,
      unauthorized, requestName, requestName, now, headers, method]
  · rcases resolved : (g.service.resolver.resolve c.sub).run
      (some (g.world.clock.timer patience)) g.world with ⟨outcome, w⟩
    have handle {x : Option Response} {w' : World}
        (ended : afterResolution body (some (g.world.clock.timer patience)) outcome w = (x, w')) :=
      handle_of_presents draws g aimed handled admitted presents resolved ended
    have spares := g.service.resolver.run_resolve c.sub (some (g.world.clock.timer patience)) g.world
    rw [resolved] at spares
    refine ⟨outcome, w, rfl, spares, ?_⟩
    match outcome with
    | none =>
      rw [handle rfl]
      exact ⟨rfl, by rw [dispatch_of_action draws _ aimed]; rfl⟩
    | some (.error e) =>
      rw [handle rfl]
      refine ⟨rfl, ?_⟩
      split
      · next missing =>
        subst missing
        exact dispatch_unauthenticated draws _ aimed
      · next other =>
        rw [dispatch_of_action draws _ aimed]
        exact status_ofResolution other
    | some (.ok u) => exact ⟨_, _, rfl, handle rfl⟩

/-- A request to delete a post that bears no token at all. -/
theorem bearer_gate_bare :
    let auth : Token.Authority := ⟨[1], "agora", Duration.ofSecs 60, by decide⟩
    let g : Gate := ⟨⟨auth, .plain, ⟨"operator", "secret"⟩, defaultInvitationTtl, ""⟩, .everyone,
      ⟨.start, fun _ => default, default⟩⟩
    let r : Request := ⟨"DELETE", "/v1/posts/7".toList, [], [], none⟩
    aim r = .action (.deletePost ['7']) ∧
      Handles g.service r (.deletePost ['7']) (fun u => Service.deletePost u ['7']) ∧
      (g.screen r).1 = .allowed ∧
      g.handle default r = (unauthorized default g.world.today r, g) := by
  intro auth g r
  have aimed : aim r = .action (.deletePost ['7']) := by decide
  have handled := Handles.deletePost (s := g.service) (r := r) ['7']
  refine ⟨aimed, handled, rfl, ?_⟩
  have bare : ∀ c, ¬ Presents g.service r g.world.today c := by
    rintro c ⟨token, ⟨value, -, -, first, -⟩, -⟩
    cases first
  exact ((bearer_gate default g aimed handled rfl).1 bare).1

end Service

end Gatehouse
