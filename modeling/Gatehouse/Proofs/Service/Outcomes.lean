import Gatehouse.Proofs.Service.Atomicity
import Gatehouse.Proofs.Service.Screening

/-!
What an admitted request comes to.

* `Fails`: a technical failure, which says nothing about the data: of storage, or of the cache where it is
  not passed over.
* `perform_reports`: an action succeeds, or is refused for a reason of its own, which is never that there
  have been too many requests. If a technical failure is the last thing that it has been told, it is refused
  as an internal problem.
* `answer_reports`: so is a request.
-/

namespace Gatehouse

/-- A failure of storage that says nothing about the data. -/
def Store.Error.Technical : Store.Error → Prop
  | .timeout _ | .database _ => True
  | .notFound | .conflict _ => False

/-- A technical failure: of storage, or of the cache where it is not passed over. -/
def Event.Fails (policy : Resolver.Policy) : Event → Prop
  | .answered (.store _) r => ∃ e, r = .error e ∧ e.Technical
  | .answered (.cache _) r => ∃ e, r = .error e ∧ policy = .strict
  | .woke | .read _ => False

/-- The last thing that has been told is a technical failure. -/
def History.Failed (policy : Resolver.Policy) (h : History) : Prop :=
  ∃ x, h.getLast? = some x ∧ x.Fails policy

namespace History

variable {policy : Resolver.Policy} {h : History} {x : Event}

theorem failed_concat : History.Failed policy (h ++ [x]) ↔ x.Fails policy := by
  simp [Failed]

theorem not_failed_nil : ¬ History.Failed policy [] := by
  simp [Failed]

/-- What is answered with success is no failure. -/
theorem not_failed_ok {e : Effect} {a : e.Answer} :
    ¬ History.Failed policy (h ++ [.answered e (.ok a)]) := by
  intro failed
  cases e with
  | store c =>
    obtain ⟨e, absurd, -⟩ := failed_concat.mp failed
    cases absurd
  | cache c =>
    obtain ⟨e, absurd, -⟩ := failed_concat.mp failed
    cases absurd

/-- A failure of storage that is told last is technical if the history has failed. -/
theorem technical_of_failed {c : Store.Call} {e : Store.Error}
    (failed : History.Failed policy (h ++ [.answered (.store c) (.error e)])) : e.Technical := by
  obtain ⟨e', same, technical⟩ := failed_concat.mp failed
  cases same
  exact technical

end History

namespace Resolver

variable (r : Resolver) {h : History}

/-- What a resolution has come to agrees with what it has been told last: it succeeds only if that is no
technical failure, and fails technically if it is one. -/
def Reported (policy : Policy) (h : History) : Except Resolver.Error User → Prop
  | .ok _ => ¬ h.Failed policy
  | .error (.store e) => h.Failed policy → e.Technical
  | .error (.cache _) => True

/-- Reading storage reports what the last read has been answered. -/
theorem attempt_reports (policy : Policy) (id : Int64) (pauses : List Duration) (h : History) :
    (r.attempt id pauses).Abides (fun _ _ => True)
      (fun h x => Reported policy h (x.mapError .store)) h := by
  have answered (h : History) (x : Except Store.Error User) :
      Reported policy (h ++ [.answered (.store (.userById id)) x]) (x.mapError .store) := by
    cases x with
    | ok u => exact History.not_failed_ok
    | error e => exact History.technical_of_failed
  induction pauses generalizing h with
  | nil => exact ⟨trivial, fun x => answered h x⟩
  | cons p ps ih =>
    refine ⟨trivial, fun x => ?_⟩
    cases x with
    | ok u => exact answered h (.ok u)
    | error e =>
      show Job.Abides _ _ (if e.isTransient then _ else _) _
      split
      · exact ih _
      · exact answered h (.error e)

/-- What is read is put into the cache, and the failure to do so is reported where it is not passed over. -/
theorem loadAndRemember_reports (id : Int64) (h : History) :
    (r.loadAndRemember id).Abides (fun _ _ => True) (Reported r.policy) h := by
  refine (r.attempt_reports r.policy id pauses h).bind fun h x read => ?_
  cases x with
  | error e => exact read
  | ok u =>
    refine ⟨trivial, fun x => ?_⟩
    cases x with
    | ok _ => exact History.not_failed_ok
    | error e =>
      show Reported r.policy _ ((r.onCacheError e).map fun _ => u)
      unfold onCacheError
      split
      · next degrades =>
        intro failed
        obtain ⟨-, -, strict⟩ := History.failed_concat.mp failed
        cases degrades.symm.trans strict
      · trivial

/-- **A resolution agrees with what it has been told last.** -/
theorem resolve_reports (id : Int64) (h : History) :
    (r.resolve id).Abides (fun _ _ => True) (Reported r.policy) h := by
  cases cached : r.cached with
  | false =>
    rw [r.resolve_eq_load id cached]
    exact (r.attempt_reports r.policy id pauses h).bind fun _ _ read => read
  | true =>
    rw [r.resolve_eq id cached]
    refine ⟨trivial, fun x => ?_⟩
    rcases r.lookedUp_cases id x with ⟨u, rfl, ends⟩ | ⟨e, -, -, ends⟩ | ⟨-, goesOn⟩
    · rw [ends]
      exact History.not_failed_ok
    · rw [ends]
      trivial
    · rw [goesOn]
      exact r.loadAndRemember_reports id _

end Resolver

namespace Service

open Http (Request Response)

/-! ### Attempts -/

/-- A refusal has a reason of its own, which is never that there have been too many requests, and is an
internal problem if a technical failure is the last thing that has been told. -/
structure Refused (policy : Resolver.Policy) (h : History) (e : Refusal) : Prop where
  own : ∀ wait, e ≠ .problem (.rateLimited wait)
  internal : h.Failed policy → ∃ detail, e = .problem (.internal detail)

theorem Refused.of_internal {policy : Resolver.Policy} {h : History} (detail : String) :
    Refused policy h (.problem (.internal detail)) :=
  ⟨nofun, fun _ => ⟨detail, rfl⟩⟩

theorem Refused.of_store {policy : Resolver.Policy} {h : History} {e : Store.Error}
    (technical : h.Failed policy → e.Technical) : Refused policy h (.problem (.ofStore e)) := by
  cases e with
  | notFound => exact ⟨nofun, fun failed => (technical failed).elim⟩
  | conflict what => exact ⟨nofun, fun failed => (technical failed).elim⟩
  | timeout limit => exact .of_internal _
  | database cause => exact .of_internal _

namespace Attempt

variable {α β ε : Type} {policy : Resolver.Policy} {ends : α → Prop}

/-- An attempt agrees with what it has been told last: it goes on only if that is no technical failure, with
a result of a kind, and is refused as it should be. -/
def Reports (policy : Resolver.Policy) (ends : α → Prop) (x : Attempt α) : Prop :=
  ∀ h, ¬ h.Failed policy →
    x.Abides (fun _ _ => True) (Refused policy) (fun h a => ¬ h.Failed policy ∧ ends a) h

theorem Reports.pure {a : α} (result : ends a) : (Pure.pure a : Attempt α).Reports policy ends :=
  fun _ sound => Abides.pure ⟨sound, result⟩

theorem Reports.refuse {e : Refusal} (own : ∀ wait, e ≠ .problem (.rateLimited wait)) :
    (Attempt.refuse e : Attempt α).Reports policy ends :=
  fun _ sound => Abides.refuse ⟨own, fun failed => absurd failed sound⟩

theorem Reports.bind {x : Attempt α} {f : α → Attempt β} {ends : β → Prop}
    (first : x.Reports policy fun _ => True) (next : ∀ a, (f a).Reports policy ends) :
    (x >>= f).Reports policy ends :=
  fun h sound => (first h sound).bind fun h a result => next a h result.1

theorem Reports.ofExcept {problem : ε → Problem} (r : Except ε α)
    (own : ∀ e wait, problem e ≠ .rateLimited wait) :
    (Attempt.ofExcept problem r).Reports policy fun _ => True :=
  fun _ sound => Abides.ofExcept (fun _ _ => ⟨sound, trivial⟩)
    fun e => ⟨fun wait same => own e wait (Refusal.problem.inj same), fun failed => absurd failed sound⟩

theorem Reports.ofFallible {problem : ε → Problem} {j : Job (Except ε α)}
    (reports : ∀ h, ¬ h.Failed policy → j.Abides (fun _ _ => True) (fun h r => match r with
      | .ok _ => ¬ h.Failed policy
      | .error e => Refused policy h (.problem (problem e))) h) :
    (Attempt.ofFallible problem j).Reports policy fun _ => True := by
  refine fun h sound => Abides.ofFallible ((reports h sound).mono (fun _ _ _ => trivial) fun h r ended => ?_)
  cases r with
  | ok a => exact ⟨ended, trivial⟩
  | error e => exact ended

/-- A call of storage, whose failures may be named anew as long as technical ones are internal. -/
theorem Reports.call {c : Store.Call} {problem : Store.Error → Problem}
    (refused : ∀ h e, (h.Failed policy → e.Technical) → Refused policy h (.problem (problem e))) :
    (Attempt.ofFallible problem (.store c)).Reports policy fun _ => True := by
  refine .ofFallible fun h _ => ⟨trivial, fun r => ?_⟩
  cases r with
  | ok a => exact History.not_failed_ok
  | error e => exact refused _ e History.technical_of_failed

theorem Reports.store {c : Store.Call} : (Attempt.store c).Reports policy fun _ => True :=
  .call fun _ _ => .of_store

/-- The resolution of a user, under names for its failures. -/
theorem Reports.resolve {r : Resolver} {problem : Resolver.Error → Problem} (id : Int64)
    (ofStore : ∀ h e, (h.Failed r.policy → e.Technical) → Refused r.policy h (.problem (problem (.store e))))
    (ofCache : ∀ h e, Refused r.policy h (.problem (problem (.cache e)))) :
    (Attempt.ofFallible problem (r.resolve id)).Reports r.policy fun _ => True := by
  refine .ofFallible fun h _ => (r.resolve_reports id h).mono (fun _ _ _ => trivial) fun h x ended => ?_
  match x with
  | .ok u => exact ended
  | .error (.store e) => exact ofStore h e ended
  | .error (.cache e) => exact ofCache h e

end Attempt

/-! ### What actions read -/

open Attempt (Reports)

variable {policy : Resolver.Policy}

theorem segmentText_reports (segment : List Char) : (segmentText segment).Reports policy fun _ => True := by
  unfold segmentText
  split
  · exact .pure trivial
  · exact .refuse nofun

theorem segmentId_reports (segment : List Char) : (segmentId segment).Reports policy fun _ => True := by
  unfold segmentId
  split
  · exact .pure trivial
  · exact .refuse nofun

theorem payload_reports {α : Type} (shape : Json.Shape α) (r : Request) :
    (payload shape r).Reports policy fun _ => True := by
  unfold payload
  split
  · exact .refuse nofun
  split
  · exact .refuse nofun
  split
  · exact .pure trivial
  · exact .refuse nofun

theorem keep_reports (rules : Except Form.Violation Unit) : (keep rules).Reports policy fun _ => True :=
  .ofExcept rules fun _ => nofun

theorem today_reports : today.Reports policy fun _ => True := by
  refine fun h _ t => ⟨?_, trivial⟩
  exact fun failed => History.failed_concat.mp failed

theorem principal_reports (s : Service) (r : Request) :
    (s.principal r).Reports s.resolver.policy fun _ => True := by
  refine .bind (.ofExcept _ fun e => ?_) fun token => .bind today_reports fun now =>
    .bind (.ofExcept _ fun e => ?_) fun claims => .resolve _ (fun h e technical => ?_) fun h e => ?_
  · cases e <;> exact nofun
  · cases e <;> exact nofun
  · cases e with
    | notFound => exact ⟨nofun, fun failed => (technical failed).elim⟩
    | conflict what => exact .of_internal _
    | timeout limit => exact .of_internal _
    | database cause => exact .of_internal _
  · exact .of_internal _

theorem credentialsFor_reports (email password : String) :
    (credentialsFor email password).Reports policy fun _ => True := by
  refine .call fun h e technical => ?_
  cases e with
  | notFound => exact ⟨nofun, fun failed => (technical failed).elim⟩
  | conflict what => exact .of_store technical
  | timeout limit => exact .of_store technical
  | database cause => exact .of_store technical

theorem ownPost_reports (u : User) (id : Int64) (role : String) :
    (ownPost u id role).Reports policy fun _ => True := by
  refine .bind .store fun post => .bind (.ofFallible fun h sound => ?_) fun allowed => ?_
  · unfold Authorization.authorize
    split
    · exact sound
    · refine ⟨trivial, fun answer => ?_⟩
      match answer with
      | .ok role => exact History.not_failed_ok
      | .error .notFound => exact .of_internal _
      | .error (.conflict what) => exact .of_internal _
      | .error (.timeout limit) => exact .of_internal _
      | .error (.database cause) => exact .of_internal _
  · cases allowed with
    | true => exact .pure trivial
    | false => exact .refuse nofun

theorem register_reports (random : Bytes) (n : Store.Newcomer) (ttl : Duration) :
    (Attempt.ofFallible .ofInvitation (Invitation.register random n ttl)).Reports policy fun _ => True := by
  refine .ofFallible fun h sound now => ?_
  dsimp only
  split
  · exact .of_internal _
  · refine ⟨trivial, fun answer => ?_⟩
    cases answer with
    | ok u => exact History.not_failed_ok
    | error e => exact .of_store History.technical_of_failed

theorem activate_reports (text : String) :
    (Attempt.ofFallible .ofInvitation (Invitation.activate text)).Reports policy fun _ => True := by
  refine .ofFallible fun h sound now => ⟨trivial, fun answer => ?_⟩
  match answer with
  | .ok id => exact History.not_failed_ok
  | .error .notFound => exact ⟨nofun, fun failed => (History.technical_of_failed failed).elim⟩
  | .error (.conflict what) => exact .of_store History.technical_of_failed
  | .error (.timeout limit) => exact .of_store History.technical_of_failed
  | .error (.database cause) => exact .of_store History.technical_of_failed

/-! ### Actions -/

/-- **An action agrees with what it has been told last.** -/
theorem perform_reports (s : Service) (draws : Draws) (r : Request) (a : Action) :
    (s.perform draws r a).Reports s.resolver.policy Succeeds := by
  have forUser {f : User → Attempt Response} (next : ∀ u, (f u).Reports s.resolver.policy Succeeds) :=
    Reports.bind (principal_reports s r) next
  have created (body : Json) : Succeeds (.json 201 body) := .json (by decide) body
  have shown (body : Json) : Succeeds (.json 200 body) := .json (by decide) body
  have emptied : Succeeds (.empty 204) := .empty (by decide)
  cases a with
  | health => exact .pure (by simp [Succeeds, health, Http.Response.json])
  | register =>
    exact .bind (payload_reports _ r) fun p => .bind (keep_reports _) fun _ =>
      .bind (register_reports _ _ _) fun _ => .pure (created _)
  | logIn =>
    refine .bind (payload_reports _ r) fun p => .bind (keep_reports _) fun _ =>
      .bind (credentialsFor_reports _ _) fun c => ?_
    split
    · exact .bind today_reports fun _ => .pure (created _)
    · exact .refuse (by simp)
  | activate segment =>
    exact .bind (segmentText_reports segment) fun text => .bind (activate_reports text) fun _ =>
      .pure emptied
  | showUser segment =>
    refine forUser fun u => .bind (segmentId_reports segment) fun id => ?_
    split
    · exact .pure (shown _)
    · exact .bind (.resolve id (fun h e => .of_store) fun h e => .of_internal _) fun _ => .pure (shown _)
  | follow segment =>
    exact forUser fun u => .bind (segmentId_reports segment) fun id => .bind .store fun _ => .pure emptied
  | unfollow segment =>
    exact forUser fun u => .bind (segmentId_reports segment) fun id => .bind .store fun _ => .pure emptied
  | createPost =>
    exact forUser fun u => .bind (payload_reports _ r) fun p => .bind (keep_reports _) fun _ =>
      .bind .store fun _ => .pure (created _)
  | showPost segment =>
    exact forUser fun _ => .bind (segmentId_reports segment) fun id => .bind .store fun _ => .pure (shown _)
  | editPost segment =>
    exact forUser fun u => .bind (segmentId_reports segment) fun id =>
      .bind (payload_reports _ r) fun patch => .bind (ownPost_reports u id _) fun _ =>
      .bind (keep_reports _) fun _ => .bind .store fun _ => .pure (shown _)
  | deletePost segment =>
    exact forUser fun u => .bind (segmentId_reports segment) fun id => .bind (ownPost_reports u id _) fun _ =>
      .bind .store fun _ => .pure emptied
  | showDocument =>
    show (s.showDocument r).Reports _ _
    unfold showDocument
    split
    · exact .pure (shown _)
    · exact .refuse (by simp)

/-! ### Requests -/

/-- What an admitted request comes to after a history. -/
inductive Outcome (policy : Resolver.Policy) (h : History) (x : Response) : Prop where
  /-- There is no such thing, or not for this method. -/
  | nothing (status : Nat) (which : status = 404 ∨ status = 405) (empty : x = .empty status)
    (sound : ¬ h.Failed policy)
  | success (succeeds : Succeeds x) (sound : ¬ h.Failed policy)
  | refusal (e : Refusal) (refused : Refused policy h e) (reported : x = e.response)

namespace Outcome

variable {policy : Resolver.Policy} {h : History} {x : Response}

/-- Only a limiter says that there have been too many requests. -/
theorem status_ne_limited (outcome : Outcome policy h x) : x.status ≠ 429 := by
  cases outcome with
  | nothing status which empty sound =>
    subst empty
    rcases which with rfl | rfl
    · exact (by decide : (404 : Nat) ≠ 429)
    · exact (by decide : (405 : Nat) ≠ 429)
  | success succeeds sound =>
    have := succeeds.2
    omega
  | refusal e refused reported =>
    subst reported
    cases e with
    | problem p =>
      cases p with
      | rateLimited wait => exact absurd rfl (refused.own wait)
      | _ => simp [Refusal.response, Problem.response, Problem.status, Http.Response.json]
    | body fault => cases fault <;> simp [Refusal.response, Http.Response.text]
    | _ => simp [Refusal.response, Http.Response.text]

/-- **What goes wrong inside is told in one way only.** -/
theorem eq_internal (outcome : Outcome policy h x) (internal : x.status = 500) :
    x = (Problem.internal "").response := by
  cases outcome with
  | nothing status which empty sound =>
    subst empty
    rcases which with rfl | rfl <;> cases internal
  | success succeeds sound =>
    have := succeeds.2
    omega
  | refusal e refused reported =>
    subst reported
    cases e with
    | problem p =>
      cases p with
      | internal detail => rfl
      | _ => cases internal
    | body fault => cases fault <;> cases internal
    | _ => cases internal

/-- **A technical failure that is told last is told on as an internal problem.** -/
theorem eq_of_failed (outcome : Outcome policy h x) (failed : h.Failed policy) :
    x = (Problem.internal "").response := by
  cases outcome with
  | nothing status which empty sound => exact absurd failed sound
  | success succeeds sound => exact absurd failed sound
  | refusal e refused reported =>
    obtain ⟨detail, rfl⟩ := refused.internal failed
    exact reported

end Outcome

/-- **An admitted request succeeds, or is refused for a reason of its own.** -/
theorem answer_reports (s : Service) (draws : Draws) (r : Request) :
    (s.answer draws r).Abides (fun _ _ => True) (Outcome s.resolver.policy) [] := by
  rcases s.answer_cases draws r with ⟨status, which, none⟩ | ⟨a, -, acts⟩
  · rw [none]
    exact .nothing status which rfl History.not_failed_nil
  · rw [acts]
    exact (perform_reports s draws r a [] History.not_failed_nil).respond
      (fun h x ended => .success ended.2 ended.1) fun h e refused => .refusal e refused rfl

namespace Gate

variable (g : Gate) (draws : Draws) {r : Request}

/-- A request that the limiter lets through is given up, or comes to what it comes to after a history. -/
theorem handle_outcome (admitted : (g.screen r).1 = .allowed) :
    (g.handle draws r).1 = dispatch draws g.world.today r (.empty 408) ∨
    ∃ h x, Job.After (g.service.answer draws r) h (.done x) ∧ Outcome g.service.resolver.policy h x ∧
      (g.handle draws r).1 = dispatch draws g.world.today r x := by
  rcases ran : (g.service.answer draws r).run (some (g.world.clock.timer patience)) g.world with ⟨y, w⟩
  rw [g.handle_of_allowed draws admitted ran]
  cases y with
  | none => exact .inl rfl
  | some x =>
    obtain ⟨h, after⟩ := Job.After.of_run (congrArg Prod.fst ran)
    exact .inr ⟨h, x, after, after.abides (answer_reports g.service draws r), rfl⟩

/-- **There have been too many requests** exactly if the limiter says so. -/
theorem status_eq_limited_iff : (g.handle draws r).1.status = 429 ↔ (g.screen r).1 ≠ .allowed := by
  constructor
  · intro limited admitted
    rcases g.handle_outcome draws admitted with given | ⟨h, x, -, outcome, answered⟩
    · rw [given, status_dispatch] at limited
      cases limited
    · rw [answered, status_dispatch] at limited
      exact outcome.status_ne_limited limited
  · intro away
    obtain ⟨wait, limited⟩ := g.handle_of_turnedAway draws away
    rw [limited, status_dispatch]
    rfl

end Gate

end Service
end Gatehouse
