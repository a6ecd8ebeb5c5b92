import Mathlib.Logic.Function.Basic
import Gatehouse.Proofs.Job.History
import Gatehouse.Proofs.Store.Numbering

/-!
Jobs side by side, in time.

Jobs share a store and a cache. Each begins at a moment of its own, and goes on at the moment at which it
is told something. A call takes effect at the moment at which it is answered; one that fails, or is not
answered within its limit, has no effect at all. Others may change what is stored at any moment. Timers
are exact: time does not pass beyond the end of a limit or a pause.

* `Scene`: what there is at a moment. `Scene.Step` is what can happen next.
* `Trace`: a run, with the scenes that it has gone through.
* `Trace.timely`: nobody has waited for longer than its limit.
-/

namespace Gatehouse

/-- How long a job waits at most for what comes next, if there is a bound. -/
def Job.limit? {α : Type} : Job α → Option Duration
  | .call _ limit _ => limit
  | .pause d _ => some d
  | _ => none

/-- Jobs over a store and a cache at a moment, each with the moment since when it waits, if it has
begun. -/
structure Scene (ι α : Type) where
  now : Nat
  store : Store.Memory
  cache : Cache.Memory
  job : ι → Job α
  since : ι → Option Nat

namespace Scene

variable {ι α : Type} [DecidableEq ι]

/-- A scene in which no job has begun, and the cache is empty. -/
def start (jobs : ι → Job α) (store : Store.Memory) : Scene ι α :=
  ⟨0, store, .empty, jobs, fun _ => none⟩

/-- What a store and a cache may tell at a moment, and what they are after that. -/
inductive Tells (σ : Scene ι α) : Event → Store.Memory → Cache.Memory → Prop where
  | stored (t : Instant) (c : Store.Call) :
    Tells σ (.answered (.store c) (σ.store.perform t c).1) (σ.store.perform t c).2 σ.cache
  | cached (c : Cache.Call) :
    Tells σ (.answered (.cache c) (σ.cache.perform σ.now c).1) σ.store (σ.cache.perform σ.now c).2
  | failed (e : Effect) (error : e.Error) : Tells σ (.answered e (.error error)) σ.store σ.cache
  | woke : Tells σ .woke σ.store σ.cache
  | read (t : Instant) : Tells σ (.read t) σ.store σ.cache

/-- What can happen next. -/
inductive Step (σ : Scene ι α) : Scene ι α → Prop where
  | begins (i : ι) : σ.since i = none →
    Step σ { σ with since := Function.update σ.since i (some σ.now) }
  | told (i : ι) {s : Nat} {x : Event} {j : Job α} {store : Store.Memory} {cache : Cache.Memory} :
    σ.since i = some s → Job.Moves (σ.job i) x j → σ.Tells x store cache →
    Step σ ⟨σ.now, store, cache, Function.update σ.job i j, Function.update σ.since i (some σ.now)⟩
  | changes (store : Store.Memory) : store.OwnIds → Step σ { σ with store }
  | passes (d : Duration) :
    (∀ i s limit, σ.since i = some s → (σ.job i).limit? = some limit →
      σ.now + d.nanos ≤ s + limit.nanos) →
    Step σ { σ with now := σ.now + d.nanos }

/-- A run that has come to a scene, and the scenes that it has gone through before, last one first. -/
inductive Trace (σ₀ : Scene ι α) : List (Scene ι α) → Scene ι α → Prop where
  | start : Trace σ₀ [] σ₀
  | step {past : List (Scene ι α)} {σ σ' : Scene ι α} :
    Trace σ₀ past σ → Step σ σ' → Trace σ₀ (σ :: past) σ'

/-- Nobody has waited for longer than its limit. -/
def Timely (σ : Scene ι α) : Prop :=
  ∀ i s limit, σ.since i = some s → (σ.job i).limit? = some limit → σ.now ≤ s + limit.nanos

variable {σ σ' σ₀ : Scene ι α} {past : List (Scene ι α)} {jobs : ι → Job α} {store : Store.Memory}

omit [DecidableEq ι] in
/-- What the cache answers with a result, it has looked up. -/
theorem Tells.eq_perform {c : Cache.Call} {a : c.Answer} {cache : Cache.Memory}
    (tells : σ.Tells (.answered (.cache c) (.ok a)) store cache) :
    (σ.cache.perform σ.now c).1 = .ok a := by
  generalize answer : (Except.ok a : (Effect.cache c).Result) = x at tells
  cases tells with
  | cached c => rfl
  | failed e error => cases answer

omit [DecidableEq ι] in
theorem timely_start : (start jobs store).Timely := by
  intro i s limit since
  cases since

theorem Step.timely (step : Step σ σ') (timely : σ.Timely) : σ'.Timely := by
  -- Whoever has just begun or been told something has not waited at all.
  cases step with
  | begins i unbegun =>
    intro i' s limit since bound
    by_cases same : i' = i
    · subst same
      obtain rfl : σ.now = s := by simpa using since
      exact Nat.le_add_right ..
    · exact timely i' s limit (by simpa [same] using since) bound
  | told i begun move tells =>
    intro i' s limit since bound
    by_cases same : i' = i
    · subst same
      obtain rfl : σ.now = s := by simpa using since
      exact Nat.le_add_right ..
    · exact timely i' s limit (by simpa [same] using since) (by simpa [same] using bound)
  | changes store own => exact timely
  | passes d exact' => exact exact'

/-- **Nobody waits for longer than its limit.** -/
theorem Trace.timely (trace : Trace (Scene.start jobs store) past σ) : σ.Timely := by
  induction trace with
  | start => exact timely_start
  | step _ step ih => exact step.timely ih

theorem Step.now_le (step : Step σ σ') : σ.now ≤ σ'.now := by
  cases step with
  | passes d exact' => exact Nat.le_add_right ..
  | _ => exact Nat.le_refl _

/-- Time does not go back. -/
theorem Trace.now_le (trace : Trace σ₀ past σ) : ∀ σ' ∈ past, σ'.now ≤ σ.now := by
  induction trace with
  | start =>
    intro σ' mem
    cases mem
  | step _ step ih =>
    intro σ' mem
    rcases List.mem_cons.mp mem with rfl | mem
    · exact step.now_le
    · exact Nat.le_trans (ih σ' mem) step.now_le

end Scene

end Gatehouse
