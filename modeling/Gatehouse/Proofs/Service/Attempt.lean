import Gatehouse.Proofs.Job.History
import Gatehouse.Service.Gate

/-!
Attempts as jobs.

* `run_bind`: an attempt that goes on with a result ends at the first refusal.
* `respond_bind`: the same for the response that an attempt comes to.
* `Abides.bind`: what an attempt does with what it has been told, from what its parts do.
* `answer_cases`: what an admitted request comes to.
* `principal_run`: how the principal of a request is found, step by step.
-/

namespace Gatehouse.Service

open Http (Request Response)

namespace Attempt

variable {α β ε : Type}

/-! ### Steps -/

/-- **An attempt ends at its first refusal.** -/
theorem run_bind (x : Attempt α) (f : α → Attempt β) :
    (x >>= f).run = x.run.bind fun
      | .ok a => (f a).run
      | .error e => .done (.error e) := by
  show x.run.bind _ = _
  congr 1
  funext r
  cases r <;> rfl

theorem run_ofExcept (problem : ε → Problem) (r : Except ε α) :
    (ofExcept problem r).run = .done (r.mapError fun e => .problem (problem e)) := rfl

/-! ### Responses -/

/-- The response that an attempt comes to: its result, or what reports its refusal. -/
def respond (x : Attempt Response) : Job Response :=
  x.run.bind fun
    | .ok a => .done a
    | .error e => .done e.response

theorem respond_bind (x : Attempt α) (f : α → Attempt Response) :
    respond (x >>= f) = x.run.bind fun
      | .ok a => respond (f a)
      | .error e => .done e.response := by
  rw [respond, run_bind, Job.bind_assoc]
  congr 1
  funext r
  cases r <;> rfl

/-! ### What a history permits -/

/-- From a history on, an attempt makes only calls that `calls` permits, is refused only as `stop`
permits, and comes only to results that `ends` permits. -/
def Abides (calls : History → Effect → Prop) (stop : History → Refusal → Prop)
    (ends : History → α → Prop) (x : Attempt α) (h : History) : Prop :=
  x.run.Abides calls (fun h r => match r with
    | .ok a => ends h a
    | .error e => stop h e) h

variable {calls : History → Effect → Prop} {stop : History → Refusal → Prop}
  {ends : History → α → Prop} {h : History}

theorem Abides.pure {a : α} (result : ends h a) : (Pure.pure a : Attempt α).Abides calls stop ends h :=
  result

theorem Abides.refuse {e : Refusal} (refused : stop h e) :
    (Attempt.refuse e : Attempt α).Abides calls stop ends h :=
  refused

/-- What is permitted of refusals may be said more broadly. -/
theorem Abides.weaken {x : Attempt α} {stop' : History → Refusal → Prop}
    (abides : x.Abides calls stop ends h) (hstop : ∀ h e, stop h e → stop' h e) :
    x.Abides calls stop' ends h := by
  refine Job.Abides.mono (fun _ _ calls => calls) (fun h r ended => ?_) abides
  cases r with
  | ok a => exact ended
  | error e => exact hstop h e ended

/-- **An attempt that goes on abides if both of its parts do.** -/
theorem Abides.bind {x : Attempt α} {f : α → Attempt β} {mid : History → α → Prop}
    {ends : History → β → Prop} (first : x.Abides calls stop mid h)
    (next : ∀ h a, mid h a → (f a).Abides calls stop ends h) :
    (x >>= f).Abides calls stop ends h := by
  rw [Abides, run_bind]
  refine Job.Abides.bind first fun h r result => ?_
  cases r with
  | ok a => exact next h a result
  | error e => exact result

theorem Abides.ofExcept {problem : ε → Problem} {r : Except ε α}
    (result : ∀ a, r = .ok a → ends h a) (refused : ∀ e, stop h (.problem (problem e))) :
    (Attempt.ofExcept problem r).Abides calls stop ends h := by
  cases r with
  | ok a => exact result a rfl
  | error e => exact refused e

theorem Abides.ofFallible {problem : ε → Problem} {j : Job (Except ε α)}
    (abides : j.Abides calls (fun h r => match r with
      | .ok a => ends h a
      | .error e => stop h (.problem (problem e))) h) :
    (Attempt.ofFallible problem j).Abides calls stop ends h := by
  refine Job.Abides.bind abides fun h r result => ?_
  cases r with
  | ok a => exact result
  | error e => exact result

theorem Abides.store {c : Store.Call} {ends : History → c.Answer → Prop} (call : calls h (.store c))
    (result : ∀ a, ends (h ++ [.answered (.store c) (.ok a)]) a)
    (refused : ∀ e, stop (h ++ [.answered (.store c) (.error e)]) (.problem (.ofStore e))) :
    (Attempt.store c).Abides calls stop ends h := by
  refine ⟨call, fun r => ?_⟩
  cases r with
  | ok a => exact result a
  | error e => exact refused e

/-- The response of an attempt is either its result or the report of its refusal. -/
theorem Abides.respond {x : Attempt Response} {stop : History → Refusal → Prop}
    {ends ends' : History → Response → Prop} (abides : x.Abides calls stop ends h)
    (result : ∀ h a, ends h a → ends' h a) (refused : ∀ h e, stop h e → ends' h e.response) :
    x.respond.Abides calls ends' h := by
  refine Job.Abides.bind abides fun h r ended => ?_
  cases r with
  | ok a => exact result h a ended
  | error e => exact refused h e ended

end Attempt

/-! ### Admitted requests -/

theorem answer_eq_respond (s : Service) (draws : Draws) {r : Request} {a : Action}
    (aimed : aim r = .action a) : s.answer draws r = (s.perform draws r a).respond := by
  rw [answer, aimed]
  rfl

/-- **An admitted request is answered as its action is carried out**, or is told at once that there is none. -/
theorem answer_cases (s : Service) (draws : Draws) (r : Request) :
    (∃ status, (status = 404 ∨ status = 405) ∧ s.answer draws r = .done (.empty status)) ∨
    ∃ a, aim r = .action a ∧ s.answer draws r = (s.perform draws r a).respond := by
  cases aimed : aim r with
  | nowhere =>
    refine .inl ⟨404, .inl rfl, ?_⟩
    rw [answer, aimed]
  | notOffered resource =>
    refine .inl ⟨405, .inr rfl, ?_⟩
    rw [answer, aimed]
  | action a => exact .inr ⟨a, rfl, answer_eq_respond s draws aimed⟩

theorem today_run : today.run = .wall fun t => .done (.ok (Int64.ofInt t.secs)) := rfl

/-- **The principal is looked for in three steps**: the header field, the token in it, and the user
that the token is for. Storage and cache are not called before the third. -/
theorem principal_run (s : Service) (r : Request) :
    (s.principal r).run = match Credential.bearer r.headers with
      | .error e => .done (.error (.problem (.ofCredential e)))
      | .ok token => .wall fun t => match s.authority.validate token (Int64.ofInt t.secs) with
        | .error e => .done (.error (.problem (.ofToken e)))
        | .ok c => (s.resolver.resolve c.sub).bind fun x =>
            .done (x.mapError fun e => .problem (.ofResolution e)) := by
  rw [principal, Attempt.run_bind, Attempt.run_ofExcept]
  cases Credential.bearer r.headers with
  | error e => rfl
  | ok token =>
    show (do
      let claims ← Attempt.ofExcept .ofToken (s.authority.validate token (← today))
      Attempt.ofFallible .ofResolution (s.resolver.resolve claims.sub) : Attempt User).run = _
    rw [Attempt.run_bind, today_run]
    simp only [Job.bind, Attempt.run_bind, Attempt.run_ofExcept]
    congr 1
    funext t
    cases s.authority.validate token (Int64.ofInt t.secs) <;> rfl

/-- What happens to an admitted request: its job runs for as long as it may, and the gate goes on in
the world after it. -/
theorem Gate.handle_of_allowed (g : Gate) (draws : Draws) {r : Request}
    (admitted : (g.screen r).1 = .allowed) {x : Option Response} {w : World}
    (ran : (g.service.answer draws r).run (some (g.world.clock.timer patience)) g.world = (x, w)) :
    g.handle draws r = (dispatch draws g.world.today r (x.getD (.empty 408)),
      { (g.screen r).2 with world := w }) := by
  have same : ∀ d passed, g.screen r = (d, passed) →
      passed.service = g.service ∧ passed.world = g.world := by
    rintro d passed h
    obtain ⟨-, rfl⟩ := Prod.mk.inj h
    exact ⟨rfl, rfl⟩
  rcases h : g.screen r with ⟨d, passed⟩
  obtain ⟨service, world⟩ := same d passed h
  have allowed : d = .allowed := by simpa [h] using admitted
  subst allowed
  simp only [handle, h, serve, service, world, ran]

/-- What happens to a request that is not admitted: it is told how long to wait, and only the limiter has
changed. -/
theorem Gate.handle_of_limited (g : Gate) (draws : Draws) {r : Request} {wait : Duration}
    (refused : (g.screen r).1 = .limited wait) :
    g.handle draws r =
      (dispatch draws g.world.today r (Problem.rateLimited wait).response, (g.screen r).2) := by
  rcases screened : g.screen r with ⟨d, passed⟩
  rw [screened] at refused
  subst refused
  simp only [handle, screened]

end Gatehouse.Service
