import Gatehouse.Proofs.Store.Accounts
import Gatehouse.Proofs.World

/-!
What a job that runs alone does to the store of its world.

* `run_call_tells`, `run_store`: a call either is given up or fails, with nothing changed, or has been
  carried out before the job goes on.
* `run_sameAccounts`: a job whose calls enrol nobody leaves accounts and invitations as they are.
-/

namespace Gatehouse

open Store (Memory)

/-- A call that fails has changed nothing. -/
theorem Store.Memory.Tells.eq_of_error {m m' : Memory} {c : Store.Call} {e : Store.Error}
    (tells : m.Tells (.answered (.store c) (.error e)) m') : m' = m := by
  generalize answer : (Except.error e : (Effect.store c).Result) = r at tells
  cases tells with
  | failed c e => rfl
  | performed now c => exact m.perform_error now answer.symm

/-- The calls that enrol nobody. -/
def SparesAccounts : Effect → Prop
  | .store c => ¬ c.Enrols
  | .cache _ => True

namespace Job

variable {α : Type} (deadline : Option Nat) (w : World)

theorem run_done (a : α) : (Job.done a).run deadline w = (some a, w) := rfl

/-- A job that reads the wall clock goes on in the same world. -/
theorem run_wall (k : Instant → Job α) : (Job.wall k).run deadline w = (k w.today).run deadline w := rfl

/-- **A call comes to an end in one of two ways**: it is given up, with nothing changed, or the job
goes on with what the store may tell. -/
theorem run_call_tells (e : Effect) (limit : Option Duration) (k : e.Result → Job α) :
    (∃ w', (Job.call e limit k).run deadline w = (none, w') ∧
      w'.backend.store = w.backend.store) ∨
    ∃ r w', (Job.call e limit k).run deadline w = (k r).run deadline w' ∧
      w.backend.store.Tells (.answered e r) w'.backend.store := by
  have givenUp : ((w.dial e).2.giveUp deadline).backend.store = w.backend.store := by
    rw [World.giveUp_backend]
    rfl
  have waited : ∀ wake,
      (∃ w', awaited deadline e limit k (w.dial e).2 wake = (none, w') ∧
        w'.backend.store = w.backend.store) ∨
      ∃ r w', awaited deadline e limit k (w.dial e).2 wake = (k r).run deadline w' ∧
        w.backend.store.Tells (.answered e r) w'.backend.store := by
    intro wake
    cases wake with
    | none => exact .inl ⟨_, rfl, givenUp⟩
    | some wake =>
      simp only [awaited]
      split
      · exact .inl ⟨_, rfl, givenUp⟩
      · cases wake with
        | arrival tick => exact .inr ⟨_, _, rfl, ((w.dial e).2.reach tick).tells_perform e⟩
        | limit tick => exact .inr ⟨_, _, rfl, e.tells_timedOut _ _⟩
  rw [run_call]
  cases reply : (w.dial e).1 with
  | given r => exact .inr ⟨r, _, rfl, Reply.tells_given reply _⟩
  | prompt => exact .inr ⟨_, _, rfl, (w.dial e).2.tells_perform e⟩
  | late d => exact waited _
  | never => exact waited _

/-- **A call of the store** has been carried out before the job goes on with what it answers, or else
has changed nothing. -/
theorem run_store (c : Store.Call) (limit : Option Duration) (k : (Effect.store c).Result → Job α) :
    (∃ now a w', (Job.call (.store c) limit k).run deadline w = (k (.ok a)).run deadline w' ∧
      w.backend.store.perform now c = (.ok a, w'.backend.store)) ∨
    ∃ w', w'.backend.store = w.backend.store ∧
      ((Job.call (.store c) limit k).run deadline w = (none, w') ∨
        ∃ e, (Job.call (.store c) limit k).run deadline w = (k (.error e)).run deadline w') := by
  rcases run_call_tells deadline w (.store c) limit k with ⟨w', ran, same⟩ | ⟨r, w', ran, tells⟩
  · exact .inr ⟨w', same, .inl ran⟩
  · cases r with
    | ok a =>
      obtain ⟨now, performed⟩ := tells.eq_perform
      exact .inl ⟨now, a, w', ran, performed⟩
    | error e => exact .inr ⟨w', tells.eq_of_error, .inr ⟨e, ran⟩⟩

theorem kept_sameAccounts :
    Kept SparesAccounts fun w w' => w.backend.store.SameAccounts w'.backend.store where
  refl w := .refl w.backend.store
  trans one two := one.trans two
  reach w _ := .refl w.backend.store
  dial w _ _ := .refl w.backend.store
  perform w e spares := by
    cases e with
    | store c => exact w.backend.store.perform_sameAccounts w.today spares
    | cache c => exact .refl w.backend.store

/-- **A job whose calls enrol nobody** leaves accounts and invitations as they are. -/
theorem run_sameAccounts {j : Job α} (only : j.Only SparesAccounts) :
    w.backend.store.SameAccounts (j.run deadline w).2.backend.store :=
  run_preserves kept_sameAccounts only deadline w

end Job

end Gatehouse
