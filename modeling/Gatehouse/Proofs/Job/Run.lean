import Gatehouse.World

/-!
What a job can do to the world it runs in.

* `run_bind`: a job that goes on with the result of another one runs after it, in the world that the
  other one leaves, unless that one is given up.
* `Only`: every call that a job can make, whatever is answered to it, is one of the given ones.
* `run_preserves`: a run changes the world only in ways that its calls can. Whatever relates a world to
  itself, chains, and holds across every single call and the passing of time, holds across the run.
-/

namespace Gatehouse

namespace Job

variable {α β : Type}

/-! ### Runs -/

/-- How a job goes on that waits for a call, from what ends its wait. -/
def awaited (deadline : Option Nat) (e : Effect) (limit : Option Duration) (k : e.Result → Job α)
    (w : World) : Option Wake → Option α × World
  | none => (none, w.giveUp deadline)
  | some wake =>
    if isOver deadline wake.tick then (none, w.giveUp deadline)
    else match wake with
      | .arrival tick => (k ((w.reach tick).perform e).1).run deadline ((w.reach tick).perform e).2
      | .limit tick => (k (.error (e.timedOut (limit.getD default)))).run deadline (w.reach tick)

/-- A call is dialled, and ends by its reply or by what its wait brings. -/
theorem run_call (deadline : Option Nat) (e : Effect) (limit : Option Duration)
    (k : e.Result → Job α) (w : World) :
    (Job.call e limit k).run deadline w =
      match (w.dial e).1 with
      | .given r => (k r).run deadline (w.dial e).2
      | .prompt => (k ((w.dial e).2.perform e).1).run deadline ((w.dial e).2.perform e).2
      | .late d => awaited deadline e limit k (w.dial e).2
          (Wake.first (some ((w.dial e).2.clock.timer d)) (limit.map (w.dial e).2.clock.timer))
      | .never => awaited deadline e limit k (w.dial e).2
          (Wake.first none (limit.map (w.dial e).2.clock.timer)) := by
  rw [run]
  rcases w.dial e with ⟨reply, w'⟩
  cases reply with
  | given r => rfl
  | prompt => rfl
  | late d =>
    simp only
    cases Wake.first (some (w'.clock.timer d)) (limit.map w'.clock.timer) with
    | none => rfl
    | some wake => cases wake <;> rfl
  | never =>
    simp only
    cases Wake.first none (limit.map w'.clock.timer) with
    | none => rfl
    | some wake => cases wake <;> rfl

/-- **A job that goes on runs on in the world that is left to it.** -/
theorem run_bind (deadline : Option Nat) (j : Job α) (f : α → Job β) (w : World) :
    (j.bind f).run deadline w =
      match j.run deadline w with
      | (some a, w') => (f a).run deadline w'
      | (none, w') => (none, w') := by
  induction j generalizing w with
  | done a => rfl
  | wall k ih => exact ih w.today w
  | pause d next ih =>
    simp only [bind, run]
    split
    · rfl
    · exact ih _
  | call e limit k ih =>
    have waited : ∀ w wake, awaited deadline e limit (fun r => (k r).bind f) w wake =
        match awaited deadline e limit k w wake with
        | (some a, w') => (f a).run deadline w'
        | (none, w') => (none, w') := by
      intro w wake
      cases wake with
      | none => rfl
      | some wake =>
        simp only [awaited]
        split
        · rfl
        · cases wake with
          | arrival tick => exact ih _ _
          | limit tick => exact ih _ _
    simp only [bind, run_call]
    cases (w.dial e).1 with
    | given r => exact ih r _
    | prompt => exact ih _ _
    | late d => exact waited _ _
    | never => exact waited _ _

/-! ### The calls of a job -/

/-- Whatever is answered to it, a job makes no calls but those of a kind. -/
def Only (p : Effect → Prop) : Job α → Prop
  | .done _ => True
  | .call e _ k => p e ∧ ∀ r, (k r).Only p
  | .pause _ next => next.Only p
  | .wall k => ∀ t, (k t).Only p

/-- Calls of storage. -/
def OfStorage : Effect → Prop
  | .store _ => True
  | .cache _ => False

theorem Only.mono {p q : Effect → Prop} (h : ∀ e, p e → q e) {j : Job α} (only : j.Only p) :
    j.Only q := by
  induction j with
  | done a => trivial
  | wall k ih => exact fun t => ih t (only t)
  | pause d next ih => exact ih only
  | call e limit k ih => exact ⟨h e only.1, fun r => ih r (only.2 r)⟩

theorem Only.bind {p : Effect → Prop} {j : Job α} (only : j.Only p) {f : α → Job β}
    (next : ∀ a, (f a).Only p) : (j.bind f).Only p := by
  induction j with
  | done a => exact next a
  | wall k ih => exact fun t => ih t (only t)
  | pause d next' ih => exact ih only
  | call e limit k ih => exact ⟨only.1, fun r => ih r (only.2 r)⟩

/-- A relation between worlds that the passing of time and the calls of a kind keep. -/
structure Kept (p : Effect → Prop) (R : World → World → Prop) : Prop where
  refl : ∀ w, R w w
  trans : ∀ {w₁ w₂ w₃}, R w₁ w₂ → R w₂ w₃ → R w₁ w₃
  reach : ∀ w tick, R w (w.reach tick)
  dial : ∀ w e, p e → R w (w.dial e).2
  perform : ∀ w e, p e → R w (w.perform e).2

theorem Kept.giveUp {p : Effect → Prop} {R : World → World → Prop} (kept : Kept p R) (w : World)
    (deadline : Option Nat) : R w (w.giveUp deadline) := by
  cases deadline with
  | none => exact kept.refl w
  | some d => exact kept.reach w d

/-- **A run changes the world only as its calls do.** -/
theorem run_preserves {p : Effect → Prop} {R : World → World → Prop} (kept : Kept p R) {j : Job α}
    (only : j.Only p) (deadline : Option Nat) (w : World) : R w (j.run deadline w).2 := by
  induction j generalizing w with
  | done a => exact kept.refl w
  | wall k ih => exact ih w.today (only w.today) w
  | pause d next ih =>
    simp only [run]
    split
    · exact kept.giveUp w deadline
    · exact kept.trans (kept.reach w _) (ih only _)
  | call e limit k ih =>
    have go : ∀ r w', R w w' → R w ((k r).run deadline w').2 := fun r w' h =>
      kept.trans h (ih r (only.2 r) w')
    have dialled := kept.dial w e only.1
    have reached : ∀ tick, R w ((w.dial e).2.reach tick) := fun tick =>
      kept.trans dialled (kept.reach _ tick)
    have waited : ∀ wake, R w (awaited deadline e limit k (w.dial e).2 wake).2 := by
      intro wake
      cases wake with
      | none => exact kept.trans dialled (kept.giveUp _ deadline)
      | some wake =>
        simp only [awaited]
        split
        · exact kept.trans dialled (kept.giveUp _ deadline)
        · cases wake with
          | arrival tick => exact go _ _ (kept.trans (reached tick) (kept.perform _ e only.1))
          | limit tick => exact go _ _ (reached tick)
    rw [run_call]
    cases (w.dial e).1 with
    | given r => exact go r _ dialled
    | prompt => exact go _ _ (kept.trans dialled (kept.perform _ e only.1))
    | late d => exact waited _
    | never => exact waited _

end Job

end Gatehouse
