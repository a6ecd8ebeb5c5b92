import Gatehouse.Proofs.Job.Detail
import Gatehouse.Proofs.Service.Discretion
import Gatehouse.Proofs.Service.Outcomes

/-!
Answers tell nothing of the details of failures.

* `Resolver.resolve_resembles`: whether a resolution makes another attempt, and what it comes to, does not
  depend on details.
* `Discreet`: an attempt makes the same calls and is answered alike, whatever the details of the failures are
  that it is told. `perform_discreet`: so does every action.
* `Gate.handle_resembles`: one request, in worlds that differ in the details of the mishaps to come only.
* `details_undisclosed`: any number of requests, and what is told of a failure at all.
-/

namespace Gatehouse

/-! ### Resolutions -/

namespace Resolver

/-- Two failures to resolve a user that differ in their details only. -/
inductive Error.Resembles : Resolver.Error → Resolver.Error → Prop where
  | store {e e' : Store.Error} (related : e.Resembles e') : Resembles (.store e) (.store e')
  | cache {e e' : Cache.Error} (related : e.Resembles e') : Resembles (.cache e) (.cache e')

variable (r : Resolver)

/-- Whether storage is read once more does not depend on details. -/
theorem attempt_resembles (id : Int64) (pauses : List Duration) :
    Job.Resembles (Both Store.Error.Resembles Eq) (r.attempt id pauses) (r.attempt id pauses) := by
  induction pauses with
  | nil => exact .call _ _ fun _ _ related => .done related
  | cons p ps ih =>
    refine .call _ _ fun x x' related => ?_
    cases related with
    | ok same =>
      subst same
      exact .done (.ok rfl)
    | @error e e' related =>
      show Job.Resembles _ (if e.isTransient then _ else _) (if e'.isTransient then _ else _)
      rw [Store.Error.Resembles.isTransient related]
      split
      · exact .pause p ih
      · exact .done (.error related)

theorem remember_resembles (u : User) :
    Job.Resembles (Both Error.Resembles Eq) (r.remember u) (r.remember u) := by
  refine .call _ _ fun x x' related => ?_
  cases related with
  | ok same => exact .done (.ok rfl)
  | @error e e' related =>
    show Job.Resembles _ (.done ((r.onCacheError e).map _)) (.done ((r.onCacheError e').map _))
    unfold onCacheError
    cases r.policy with
    | degrade => exact .done (.ok rfl)
    | strict => exact .done (.error (.cache related))

theorem loadAndRemember_resembles (id : Int64) :
    Job.Resembles (Both Error.Resembles Eq) (r.loadAndRemember id) (r.loadAndRemember id) := by
  refine (r.attempt_resembles id pauses).bind fun x x' related => ?_
  cases related with
  | @ok u u' same =>
    subst same
    exact r.remember_resembles u
  | error related => exact .done (.error (.store related))

/-- **How a resolution goes on** does not depend on details. -/
theorem resolve_resembles (id : Int64) :
    Job.Resembles (Both Error.Resembles Eq) (r.resolve id) (r.resolve id) := by
  cases cached : r.cached with
  | false =>
    rw [r.resolve_eq_load id cached]
    refine (r.attempt_resembles id pauses).bind fun x x' related => ?_
    cases related with
    | ok same => exact .done (.ok same)
    | error related => exact .done (.error (.store related))
  | true =>
    rw [r.resolve_eq id cached]
    refine .call _ _ fun x x' related => ?_
    cases related with
    | @ok found found' same =>
      subst same
      cases found with
      | none => exact r.loadAndRemember_resembles id
      | some u => exact .done (.ok rfl)
    | @error e e' related =>
      simp only [lookedUp, onCacheError]
      cases r.policy with
      | degrade => exact r.loadAndRemember_resembles id
      | strict => exact .done (.error (.cache related))

end Resolver

namespace Service

open Http (Request Response)

/-! ### Attempts -/

namespace Attempt

variable {α β ε : Type}

/-- An attempt makes the same calls, comes to the same result, and is refused with the same response, whatever
the details of the failures are that it is told. -/
def Discreet (x : Attempt α) : Prop :=
  x.run.Resembles (Both (fun e e' => e.response = e'.response) Eq) x.run

theorem Discreet.pure (a : α) : (Pure.pure a : Attempt α).Discreet := .done (.ok rfl)

theorem Discreet.refuse (e : Refusal) : (Attempt.refuse e : Attempt α).Discreet := .done (.error rfl)

theorem Discreet.bind {x : Attempt α} {f : α → Attempt β} (first : x.Discreet)
    (next : ∀ a, (f a).Discreet) : (x >>= f).Discreet := by
  rw [Discreet, run_bind]
  refine Job.Resembles.bind first fun r r' related => ?_
  cases related with
  | @ok a a' same =>
    subst same
    exact next a
  | error same => exact .done (.error same)

theorem Idle.discreet {x : Attempt α} (idle : x.Idle) : x.Discreet := by
  obtain ⟨r, done, -⟩ := idle
  rw [Discreet, done]
  cases r with
  | ok a => exact .done (.ok rfl)
  | error e => exact .done (.error rfl)

theorem Discreet.ofExcept (problem : ε → Problem) (r : Except ε α) :
    (Attempt.ofExcept problem r).Discreet := by
  cases r with
  | ok a => exact .done (.ok rfl)
  | error e => exact .done (.error rfl)

/-- A job that goes on in the same way, if failures that are related become problems with the same
response. -/
theorem Discreet.ofFallible {problem : ε → Problem} {E : ε → ε → Prop} {j : Job (Except ε α)}
    (resembles : j.Resembles (Both E Eq) j)
    (told : ∀ e e', E e e' → (problem e).response = (problem e').response) :
    (Attempt.ofFallible problem j).Discreet := by
  refine Job.Resembles.bind resembles fun r r' related => ?_
  cases related with
  | ok same => exact .done (.ok same)
  | error related => exact .done (.error (told _ _ related))

/-- Failures of storage become problems with the same response. -/
theorem response_ofStore {e e' : Store.Error} (resembles : e.Resembles e') :
    (Problem.ofStore e).response = (Problem.ofStore e').response := by
  cases resembles <;> rfl

theorem Discreet.store (c : Store.Call) : (Attempt.store c).Discreet :=
  .ofFallible (Job.resembles_store c) fun _ _ => response_ofStore

theorem Discreet.respond {x : Attempt Response} (discreet : x.Discreet) : x.respond.Resembles Eq x.respond := by
  refine Job.Resembles.bind discreet fun r r' related => ?_
  cases related with
  | ok same => exact .done same
  | error same => exact .done same

end Attempt

open Attempt (Discreet response_ofStore)

/-! ### What actions read -/

theorem today_discreet : today.Discreet := .wall fun _ => .done (.ok rfl)

theorem principal_discreet (s : Service) (r : Request) : (s.principal r).Discreet := by
  refine .bind (.ofExcept _ _) fun token => .bind today_discreet fun now =>
    .bind (.ofExcept _ _) fun claims => .ofFallible (s.resolver.resolve_resembles claims.sub) ?_
  intro e e' resembles
  cases resembles with
  | store related => cases related <;> rfl
  | cache related => rfl

theorem credentialsFor_discreet (email password : String) : (credentialsFor email password).Discreet := by
  refine .ofFallible (Job.resembles_store (.credentials email)) fun e e' resembles => ?_
  cases resembles <;> rfl

theorem ownPost_discreet (u : User) (id : Int64) (role : String) : (ownPost u id role).Discreet := by
  refine .bind (.store _) fun post => .bind ?_ fun allowed => ?_
  · -- Whatever goes wrong here is an internal problem.
    refine .ofFallible (E := fun _ _ => True) ?_ fun _ _ _ => rfl
    unfold Authorization.authorize
    split
    · exact .done (.ok rfl)
    · refine .call _ _ fun x x' related => ?_
      cases related with
      | ok same =>
        subst same
        exact .done (.ok rfl)
      | error related => cases related <;> exact .done (.error trivial)
  · cases allowed with
    | true => exact .pure _
    | false => exact .refuse _

theorem register_discreet (random : Bytes) (n : Store.Newcomer) (ttl : Duration) :
    (Attempt.ofFallible .ofInvitation (Invitation.register random n ttl)).Discreet := by
  refine .ofFallible (E := fun e e' => (Problem.ofInvitation e).response = (Problem.ofInvitation e').response)
    (.wall fun now => ?_) fun _ _ => id
  split
  · exact .done (.error rfl)
  · refine .call _ _ fun x x' related => ?_
    cases related with
    | ok same =>
      subst same
      exact .done (.ok rfl)
    | error related => exact .done (.error (response_ofStore related))

theorem activate_discreet (text : String) :
    (Attempt.ofFallible .ofInvitation (Invitation.activate text)).Discreet := by
  refine .ofFallible (E := fun e e' => (Problem.ofInvitation e).response = (Problem.ofInvitation e').response)
    (.wall fun now => .call _ _ fun x x' related => ?_) fun _ _ => id
  cases related with
  | ok same => exact .done (.ok rfl)
  | error related => cases related <;> exact .done (.error rfl)

/-! ### Actions -/

/-- **No action tells anything of the details of failures**, or acts on them. -/
theorem perform_discreet (s : Service) (draws : Draws) (r : Request) (a : Action) :
    (s.perform draws r a).Discreet := by
  have forUser {f : User → Attempt Response} (next : ∀ u, (f u).Discreet) :=
    Discreet.bind (principal_discreet s r) next
  have last {c : Store.Call} {f : c.Answer → Response} :
      (do let x ← Attempt.store c; return f x : Attempt Response).Discreet :=
    .bind (.store c) fun _ => .pure _
  cases a with
  | health => exact .pure _
  | register =>
    exact .bind (payload_idle _ r).discreet fun p => .bind (keep_idle _).discreet fun _ =>
      .bind (register_discreet _ _ _) fun _ => .pure _
  | logIn =>
    refine .bind (payload_idle _ r).discreet fun p => .bind (keep_idle _).discreet fun _ =>
      .bind (credentialsFor_discreet _ _) fun c => ?_
    split
    · exact .bind today_discreet fun _ => .pure _
    · exact .refuse _
  | activate segment =>
    exact .bind (segmentText_idle segment).discreet fun text => .bind (activate_discreet text) fun _ =>
      .pure _
  | showUser segment =>
    refine forUser fun u => .bind (segmentId_idle segment).discreet fun id => ?_
    split
    · exact .pure _
    · refine .bind (.ofFallible (s.resolver.resolve_resembles id) fun e e' resembles => ?_) fun _ => .pure _
      cases resembles with
      | store related => exact response_ofStore related
      | cache related => rfl
  | follow segment => exact forUser fun u => .bind (segmentId_idle segment).discreet fun id => last
  | unfollow segment => exact forUser fun u => .bind (segmentId_idle segment).discreet fun id => last
  | createPost =>
    exact forUser fun u => .bind (payload_idle _ r).discreet fun p => .bind (keep_idle _).discreet fun _ => last
  | showPost segment => exact forUser fun _ => .bind (segmentId_idle segment).discreet fun id => last
  | editPost segment =>
    exact forUser fun u => .bind (segmentId_idle segment).discreet fun id =>
      .bind (payload_idle _ r).discreet fun patch => .bind (ownPost_discreet u id _) fun _ =>
      .bind (keep_idle _).discreet fun _ => last
  | deletePost segment =>
    exact forUser fun u => .bind (segmentId_idle segment).discreet fun id =>
      .bind (ownPost_discreet u id _) fun _ => last
  | showDocument =>
    show (s.showDocument r).Discreet
    unfold showDocument
    split
    · exact .pure _
    · exact .refuse _

/-- The same random bytes for what is stored and answered; the name of the request may differ. -/
structure Draws.Resembles (d d' : Draws) : Prop where
  salt : d'.salt = d.salt
  invitation : d'.invitation = d.invitation

theorem answer_resembles (s : Service) {draws draws' : Draws} (same : draws.Resembles draws') (r : Request) :
    (s.answer draws r).Resembles Eq (s.answer draws' r) := by
  have alike : s.answer draws' r = s.answer draws r := by
    obtain ⟨salt, invitation, requestId⟩ := draws
    obtain ⟨salt', invitation', requestId'⟩ := draws'
    obtain ⟨rfl, rfl⟩ := same
    unfold answer
    cases aim r with
    | nowhere => rfl
    | notOffered resource => rfl
    | action a => cases a <;> rfl
  rw [alike]
  rcases s.answer_cases draws r with ⟨status, -, none⟩ | ⟨a, -, acts⟩
  · rw [none]
    exact .done rfl
  · rw [acts]
    exact (perform_discreet s draws r a).respond

/-! ### Requests -/

/-- Two responses that differ in the name of the request only. -/
structure SameAnswer (x x' : Response) : Prop where
  status : x.status = x'.status
  headers : nameless x.headers = nameless x'.headers
  body : x.body = x'.body

theorem sameAnswer_named (x : Response) (name name' : Bytes) :
    SameAnswer (x.withHeader "x-request-id" name) (x.withHeader "x-request-id" name') :=
  ⟨rfl, by simp [nameless, Response.withHeader], rfl⟩

theorem SameAnswer.bodiless {x x' : Response} (same : SameAnswer x x') :
    SameAnswer { x with body := [] } { x' with body := [] } :=
  ⟨same.status, same.headers, rfl⟩

theorem sameAnswer_dispatch (draws draws' : Draws) (now : Instant) (r : Request) (x : Response) :
    SameAnswer (dispatch draws now r x) (dispatch draws' now r x) := by
  have named (y : Response) := sameAnswer_named y (requestName draws now r) (requestName draws' now r)
  unfold dispatch
  generalize aim r = aim
  by_cases head : r.method = "HEAD"
  · simp only [if_pos head]
    cases aim <;> exact (named _).bodiless
  · simp only [if_neg head]
    cases aim <;> exact named _

namespace Gate

/-- Two gates that differ in the details of the mishaps to come only. -/
structure Resembles (g g' : Gate) : Prop where
  service : g'.service = g.service
  admission : g'.admission = g.admission
  world : g.world.Resembles g'.world

variable {g g' : Gate}

theorem Resembles.screen (resembles : g.Resembles g') (r : Request) :
    (g'.screen r).1 = (g.screen r).1 ∧ (g.screen r).2.Resembles (g'.screen r).2 := by
  obtain ⟨service, admission, world⟩ := resembles
  have decided : g'.admission.check g'.world.clock.now (Credential.clientKey r.headers r.peer) =
      g.admission.check g.world.clock.now (Credential.clientKey r.headers r.peer) := by
    rw [admission, world.clock]
  unfold Gate.screen
  rw [decided]
  exact ⟨rfl, service, rfl, world⟩

/-- **A request is answered alike**, and leaves such gates behind. -/
theorem handle_resembles (resembles : g.Resembles g') {draws draws' : Draws} (same : draws.Resembles draws')
    (r : Request) :
    SameAnswer (g.handle draws r).1 (g'.handle draws' r).1 ∧
      (g.handle draws r).2.Resembles (g'.handle draws' r).2 := by
  obtain ⟨decision, screened⟩ := resembles.screen r
  have now : g'.world.today = g.world.today := resembles.world.today
  cases decided : (g.screen r).1 with
  | limited wait =>
    rw [g.handle_of_limited draws decided, g'.handle_of_limited draws' (decision.trans decided), now]
    exact ⟨sameAnswer_dispatch .., screened⟩
  | allowed =>
    have answers : (g.service.answer draws r).Resembles Eq (g'.service.answer draws' r) := by
      rw [resembles.service]
      exact answer_resembles g.service same r
    obtain ⟨results, worlds⟩ := Job.run_resembles answers (some (g.world.clock.timer patience)) resembles.world
    rcases ran : (g.service.answer draws r).run (some (g.world.clock.timer patience)) g.world with ⟨x, w⟩
    rcases ran' : (g'.service.answer draws' r).run (some (g.world.clock.timer patience)) g'.world with ⟨x', w'⟩
    rw [ran, ran'] at results worlds
    rw [g.handle_of_allowed draws decided ran, g'.handle_of_allowed draws' (decision.trans decided)
      (resembles.world.clock ▸ ran'), now]
    refine ⟨?_, screened.service, screened.admission, worlds⟩
    cases results with
    | none => exact sameAnswer_dispatch ..
    | some same =>
      subst same
      exact sameAnswer_dispatch ..

/-- **What goes wrong inside is told in one way only.** -/
theorem handle_internal (g : Gate) (draws : Draws) (r : Request)
    (internal : (g.handle draws r).1.status = 500) :
    (g.handle draws r).1 = dispatch draws g.world.today r (Problem.internal "").response := by
  have admitted : (g.screen r).1 = .allowed := by
    by_contra away
    have limited := (g.status_eq_limited_iff draws).mpr away
    cases internal.symm.trans limited
  rcases g.handle_outcome draws admitted with given | ⟨h, x, -, outcome, answered⟩
  · rw [given, status_dispatch] at internal
    cases internal
  · rw [answered, status_dispatch] at internal
    rw [answered, outcome.eq_internal internal]

end Gate

/-! ### Runs -/

/-- The same happens, apart from the names of requests. -/
inductive Occurrence.Resembles : Occurrence → Occurrence → Prop where
  | request {draws draws' : Draws} (same : draws.Resembles draws') (r : Request) :
    Resembles (.request draws r) (.request draws' r)
  | wait (d : Duration) : Resembles (.wait d) (.wait d)
  | sweep : Resembles .sweep .sweep

/-- The same request is answered alike at the same time. -/
structure Exchange.Resembles (x x' : Exchange) : Prop where
  request : x'.request = x.request
  arrival : x'.arrival = x.arrival
  response : SameAnswer x.response x'.response

namespace Gate

/-- One occurrence. -/
theorem proceed_resembles {t t' : List Exchange × Gate} (logs : List.Forall₂ Exchange.Resembles t.1 t'.1)
    (gates : t.2.Resembles t'.2) {o o' : Occurrence} (same : o.Resembles o') :
    List.Forall₂ Exchange.Resembles (proceed t o).1 (proceed t' o').1 ∧
      (proceed t o).2.Resembles (proceed t' o').2 := by
  cases same with
  | request draws r =>
    obtain ⟨answers, after⟩ := handle_resembles gates draws r
    exact ⟨List.rel_append logs (.cons ⟨rfl, gates.world.today, answers⟩ .nil), after⟩
  | wait d => exact ⟨logs, gates.service, gates.admission, gates.world.advance d⟩
  | sweep =>
    refine ⟨logs, ?_⟩
    show t.2.sweep.Resembles t'.2.sweep
    unfold Gate.sweep
    rw [gates.admission]
    split
    · exact gates
    · exact ⟨gates.service, by rw [gates.world.clock], gates.world⟩

theorem foldl_resembles {os os' : List Occurrence} (same : List.Forall₂ Occurrence.Resembles os os')
    {t t' : List Exchange × Gate} (logs : List.Forall₂ Exchange.Resembles t.1 t'.1)
    (gates : t.2.Resembles t'.2) :
    List.Forall₂ Exchange.Resembles (os.foldl proceed t).1 (os'.foldl proceed t').1 ∧
      (os.foldl proceed t).2.Resembles (os'.foldl proceed t').2 := by
  induction same generalizing t t' with
  | nil => exact ⟨logs, gates⟩
  | cons first _ ih =>
    obtain ⟨logs', gates'⟩ := proceed_resembles logs gates first
    exact ih logs' gates'

end Gate

/-- **Answers tell nothing of the details of failures.** -/
theorem details_undisclosed :
    -- Take two gates in the same state, before mishaps that differ only in the details of failures: the text
    -- and the limit that come with them. The same requests, at the same times, with the same random bytes
    -- but for their names, get the same statuses, header fields but for these names, and bodies. In the end
    -- the gates are in the same state again, before the mishaps that are left, and the same is stored.
    (∀ (g g' : Gate) (os os' : List Occurrence), g.Resembles g' → List.Forall₂ Occurrence.Resembles os os' →
      List.Forall₂ Exchange.Resembles (g.run os).1 (g'.run os').1 ∧
        (g.run os).2.Resembles (g'.run os').2 ∧ (g'.run os').2.store = (g.run os).2.store) ∧
    -- All responses with the status 500 say the same.
    (∀ (g : Gate) (draws : Draws) (r : Request), (g.handle draws r).1.status = 500 →
      (g.handle draws r).1 = dispatch draws g.world.today r (Problem.internal "").response) ∧
    -- A technical failure that ends a request is answered so: storage has failed, or the cache where it is
    -- not passed over, and that is the last thing that the request has been told.
    ∀ (s : Service) (draws : Draws) (r : Request) (h : History) (x : Response),
      Job.After (s.answer draws r) h (.done x) → h.Failed s.resolver.policy →
      x = (Problem.internal "").response := by
  refine ⟨fun g g' os os' gates same => ?_, Gate.handle_internal, ?_⟩
  · have none : List.Forall₂ Exchange.Resembles ([], g).1 ([], g').1 := .nil
    obtain ⟨logs, after⟩ := Gate.foldl_resembles same none gates
    exact ⟨logs, after, after.world.store⟩
  · intro s draws r h x after failed
    exact Outcome.eq_of_failed (after.abides (answer_reports s draws r)) failed

/-- An invitation is to be used, but storage does not answer within a limit: which one is not told. -/
theorem details_undisclosed_timeout :
    let auth : Token.Authority := ⟨[1], "agora", Duration.ofSecs 60, by decide⟩
    let s : Service := ⟨auth, .plain, ⟨"operator", "secret"⟩, defaultInvitationTtl, ""⟩
    let mishaps (secs : Nat) : Script :=
      Table.empty.insert "invitations.activate" [some (.store (.timeout (Duration.ofSecs secs)))]
    let g (secs : Nat) : Gate := ⟨s, .everyone,
      ⟨.start, fun _ => default, { Backend.ofStore .seeded with script := mishaps secs }⟩⟩
    let r : Request := ⟨"PUT", "/v1/users/activate/abc".toList, [], [], none⟩
    let os : List Occurrence := [.request default r]
    let h : History := [.read default,
      .answered (.store (.activate (Invitation.digestOf "abc") default)) (.error (.timeout (Duration.ofSecs 5)))]
    ((g 5).Resembles (g 7) ∧ List.Forall₂ Occurrence.Resembles os os ∧ h.Failed s.resolver.policy) ∧
      List.Forall₂ Exchange.Resembles ((g 5).run os).1 ((g 7).run os).1 ∧
      ((g 5).handle default r).1 = dispatch default default r (Problem.internal "").response ∧
      ∃ x, Job.After (s.answer default r) h (.done x) ∧ x = (Problem.internal "").response := by
  intro auth s mishaps g r os h
  have scripts : (mishaps 5).Resembles (mishaps 7) := by
    intro name
    rw [Script.pending_insert, Script.pending_insert]
    split
    · exact .cons (.some (.store (.timeout _ _))) .nil
    · exact .nil
  have gates : (g 5).Resembles (g 7) := ⟨rfl, rfl, .under scripts⟩
  have same : List.Forall₂ Occurrence.Resembles os os := .cons (.request ⟨rfl, rfl⟩ r) .nil
  have failed : h.Failed s.resolver.policy := ⟨_, rfl, _, rfl, trivial⟩
  have internal : ((g 5).handle default r).1.status = 500 := by decide +kernel
  have aimed : aim r = .action (.activate "abc".toList) := by decide +kernel
  have text : Http.Percent.decodeText? "abc".toList = some "abc" := by decide +kernel
  have starts : s.perform default r (.activate "abc".toList) =
      (do Attempt.ofFallible .ofInvitation (Invitation.activate "abc"); return .empty 204) := by
    show activate _ = _
    rw [activate, segmentText, text]
    rfl
  have after : ∃ x, Job.After (s.answer default r) h (.done x) := by
    rw [answer_eq_respond _ _ aimed, starts]
    exact ⟨_, .step (.step .start (.read _ _)) (.answered _ _ _ _)⟩
  obtain ⟨alike, told, ends⟩ := details_undisclosed
  obtain ⟨x, after⟩ := after
  exact ⟨⟨gates, same, failed⟩, (alike _ _ os os gates same).1, told _ default r internal, x, after,
    ends s default r h x after failed⟩

end Service
end Gatehouse
