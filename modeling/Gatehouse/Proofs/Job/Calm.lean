import Gatehouse.Proofs.Cache
import Gatehouse.Proofs.Job.Run

/-!
Jobs in a calm world, where nothing befalls the calls.

* `run_call_calm`: every call is answered at once by the data, and no time passes.
* `continues_run`: whatever a job does, a calm world stays calm, and the cache faithful.
* `now_le_run`: whatever a job does, the running clock does not go back.
-/

namespace Gatehouse

/-- Nothing is going to befall any call. -/
def Script.Calm (s : Script) : Prop := ∀ name mishaps, s.find? name = some mishaps → ∀ m ∈ mishaps, m = none

theorem Script.calm_empty : Script.Calm .empty := fun _ _ found => by cases found

/-- What is taken from a calm script is no mishap, and what is left of it is calm. -/
theorem Script.Calm.next {s : Script} (calm : s.Calm) (name : String) :
    (s.next name).1 = none ∧ (s.next name).2.Calm := by
  unfold Script.next
  split
  · next m ms found =>
    refine ⟨calm _ _ found m (.head _), fun name' mishaps found' => ?_⟩
    rw [Table.find?_insert] at found'
    split at found'
    · cases found'
      exact fun m' mem => calm _ _ found m' (.tail _ mem)
    · exact calm _ _ found'
  · exact ⟨rfl, calm⟩

namespace World

/-- A call is made and takes effect at once. -/
def answer (w : World) (e : Effect) : e.Result × World := (w.dial e).2.perform e

theorem calm_answer {w : World} (calm : w.backend.script.Calm) (e : Effect) :
    (w.answer e).2.backend.script.Calm := by
  cases e <;> exact (calm.next _).2

/-- A wall clock that stands still shows one instant. -/
theorem today_of_still {w : World} {t : Instant} (still : w.wall = fun _ => t) : w.today = t := by
  rw [today, still]

end World

namespace Job

variable {α : Type} (deadline : Option Nat) {w : World}

/-- A call that no mishap befalls is answered at once by the data. -/
theorem run_call_spared {e : Effect} (spared : (w.backend.script.next e.name).1 = none)
    (limit : Option Duration) (k : e.Result → Job α) :
    (Job.call e limit k).run deadline w = (k (w.answer e).1).run deadline (w.answer e).2 := by
  have dialled : (w.dial e).1 = .prompt := by
    show Reply.under (w.backend.script.next e.name).1 e = _
    rw [spared]
    cases e <;> rfl
  rw [run_call, dialled]
  rfl

/-- **In a calm world** a call is answered at once by the data. -/
theorem run_call_calm (calm : w.backend.script.Calm) (e : Effect) (limit : Option Duration)
    (k : e.Result → Job α) :
    (Job.call e limit k).run deadline w = (k (w.answer e).1).run deadline (w.answer e).2 :=
  run_call_spared deadline (calm.next e.name).1 limit k

/-- What lasts from one world to another, whatever is done in between: the wall clock goes on as it
would, no mishaps are to come if none were, and the cache holds what it should. -/
structure Continues (w w' : World) : Prop where
  wall : w'.wall = w.wall
  calm : w.backend.script.Calm → w'.backend.script.Calm
  faithful : w.backend.cache.Faithful → w'.backend.cache.Faithful

theorem kept_continues : Kept (fun _ => True) Continues where
  refl _ := ⟨rfl, id, id⟩
  trans one two := ⟨two.wall.trans one.wall, two.calm ∘ one.calm, two.faithful ∘ one.faithful⟩
  reach _ _ := ⟨rfl, id, id⟩
  dial w e _ := ⟨rfl, fun calm => (calm.next e.name).2, id⟩
  perform w e _ := by
    cases e with
    | store c => exact ⟨rfl, id, id⟩
    | cache c => exact ⟨rfl, id, fun faithful => faithful.perform w.clock.now c⟩

theorem only_true (j : Job α) : j.Only fun _ => True := by
  induction j with
  | done a => trivial
  | wall k ih => exact ih
  | pause d next ih => exact ih
  | call e limit k ih => exact ⟨trivial, ih⟩

/-- **Whatever a job does**, a calm world stays calm and a faithful cache faithful. -/
theorem continues_run (j : Job α) (w : World) : Continues w (j.run deadline w).2 :=
  run_preserves kept_continues j.only_true deadline w

theorem kept_now : Kept (fun _ => True) fun w w' => w.clock.now ≤ w'.clock.now where
  refl _ := Nat.le_refl _
  trans := Nat.le_trans
  reach _ _ := Nat.le_add_right ..
  dial _ _ _ := Nat.le_refl _
  perform _ _ _ := Nat.le_refl _

/-- The running clock does not go back. -/
theorem now_le_run (j : Job α) (w : World) : w.clock.now ≤ (j.run deadline w).2.clock.now :=
  run_preserves kept_now j.only_true deadline w

end Job

end Gatehouse
