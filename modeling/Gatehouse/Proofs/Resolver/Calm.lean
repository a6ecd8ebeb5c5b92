import Gatehouse.Proofs.Job.Calm
import Gatehouse.Proofs.Resolver

/-!
Resolutions in a calm world, where nothing befalls their calls.

* `load_eq`: storage is asked once, and what it answers is the result.
* `resolve_hit`, `resolve_miss`: the cache knows the user, or storage is asked.
* `resolve_stored`, `stored_of_resolved`: who is found in storage.
* `resolve_calm`: a user that is stored is resolved, from the cache or from storage.
-/

namespace Gatehouse

namespace Resolver

variable {r : Resolver} {id : Int64} {w : World} {u : User} (deadline : Option Nat)

/-! ### Storage -/

/-- A user is answered by storage if it is stored. -/
theorem answer_userById :
    (w.answer (.store (.userById id))).1 = .ok u ↔ w.backend.store.user? id = some u := by
  show (w.backend.store.answer (w.backend.store.user? id)).1 = _ ↔ _
  cases w.backend.store.user? id <;> simp [Store.Memory.answer]

/-- Storage is asked once. What it does not have, it does not have at another attempt. -/
theorem load_eq (r : Resolver) (calm : w.backend.script.Calm) (id : Int64) :
    (r.load id).run deadline w = (some (w.answer (.store (.userById id))).1,
      (w.answer (.store (.userById id))).2) := by
  rw [load, pauses, attempt, Job.run_call_calm deadline calm]
  have answered : (w.answer (.store (.userById id))).1 = (w.backend.store.userById id).1 := rfl
  rw [answered, Store.Memory.userById]
  cases w.backend.store.user? id <;> rfl

/-- A user that is stored is put into the cache. -/
theorem loadAndRemember_found_calm (calm : w.backend.script.Calm)
    (stored : w.backend.store.user? id = some u) :
    (r.loadAndRemember id).run deadline w = (some (.ok u),
      ((w.answer (.store (.userById id))).2.answer (.cache (.set u r.cacheTtl))).2) := by
  have put : ((w.answer (.store (.userById id))).2.answer (.cache (.set u r.cacheTtl))).1 = .ok () :=
    Cache.Memory.set_eq_ok ..
  rw [loadAndRemember, Job.run_bind, r.load_eq deadline calm, answer_userById.mpr stored]
  simp only [remember]
  rw [Job.run_call_calm deadline (World.calm_answer calm _), put]
  rfl

theorem loadAndRemember_missing_calm (calm : w.backend.script.Calm)
    (missing : w.backend.store.user? id = none) :
    (r.loadAndRemember id).run deadline w =
      (some (.error (.store .notFound)), (w.answer (.store (.userById id))).2) := by
  have answered : (w.answer (.store (.userById id))).1 = .error .notFound := by
    show (w.backend.store.answer (w.backend.store.user? id)).1 = _
    rw [missing]
    rfl
  rw [loadAndRemember, Job.run_bind, r.load_eq deadline calm, answered]
  rfl

/-! ### The cache, and storage -/

theorem resolve_hit (cached : r.cached = true) (calm : w.backend.script.Calm)
    (hit : (w.backend.cache.get w.clock.now id).1 = .ok (some u)) :
    (r.resolve id).run deadline w = (some (.ok u), (w.answer (.cache (.get id))).2) := by
  have answered : (w.answer (.cache (.get id))).1 = .ok (some u) := hit
  rw [r.resolve_eq id cached, Job.run_call_calm deadline calm, answered]
  rfl

theorem resolve_miss (cached : r.cached = true) (calm : w.backend.script.Calm)
    (missed : (w.backend.cache.get w.clock.now id).1 = .ok none) :
    (r.resolve id).run deadline w =
      (r.loadAndRemember id).run deadline (w.answer (.cache (.get id))).2 := by
  have answered : (w.answer (.cache (.get id))).1 = .ok none := missed
  rw [r.resolve_eq id cached, Job.run_call_calm deadline calm, answered]
  rfl

/-- A user that is stored, and that the cache does not know otherwise, is resolved. -/
theorem resolve_stored (calm : w.backend.script.Calm) (stored : w.backend.store.user? id = some u)
    (remembered : r.cached = true → (w.backend.cache.get w.clock.now id).1 = .ok none ∨
      (w.backend.cache.get w.clock.now id).1 = .ok (some u)) :
    ∃ w', (r.resolve id).run deadline w = (some (.ok u), w') := by
  cases cached : r.cached with
  | false =>
    refine ⟨(w.answer (.store (.userById id))).2, ?_⟩
    rw [r.resolve_eq_load id cached, Job.run_bind, r.load_eq deadline calm, answer_userById.mpr stored]
    rfl
  | true =>
    rcases remembered cached with missed | hit
    · rw [resolve_miss deadline cached calm missed]
      exact ⟨_, loadAndRemember_found_calm deadline (World.calm_answer calm (.cache (.get id))) stored⟩
    · exact ⟨_, resolve_hit deadline cached calm hit⟩

/-- What an uncached resolution has found is stored. -/
theorem stored_of_resolved (calm : w.backend.script.Calm) (cached : r.cached = false) {w' : World}
    (resolved : (r.resolve id).run deadline w = (some (.ok u), w')) :
    w.backend.store.user? id = some u ∧ w' = (w.answer (.store (.userById id))).2 := by
  rw [r.resolve_eq_load id cached, Job.run_bind, r.load_eq deadline calm] at resolved
  cases answered : (w.answer (.store (.userById id))).1 with
  | error e =>
    rw [answered] at resolved
    cases resolved
  | ok u' =>
    rw [answered] at resolved
    cases resolved
    exact ⟨answer_userById.mp answered, rfl⟩

/-- **A user that is stored is resolved** in a calm world: as it is stored, or as the cache remembers
it. -/
theorem resolve_calm (r : Resolver) {a : Credentials} (calm : w.backend.script.Calm)
    (faithful : w.backend.cache.Faithful) (found : w.backend.store.accounts.find? id = some a)
    (own : a.user.id = id) : ∃ u w', u.id = id ∧ (r.resolve id).run deadline w = (some (.ok u), w') := by
  have stored : w.backend.store.user? id = some a.user := by rw [Store.Memory.user?, found]; rfl
  rcases faithful.get w.clock.now id with missed | ⟨u, same, hit⟩
  · exact ⟨a.user, (resolve_stored deadline calm stored fun _ => .inl missed).imp fun _ ran => ⟨own, ran⟩⟩
  · cases cached : r.cached with
    | false =>
      have uncached (yes : r.cached = true) := Bool.false_ne_true (cached.symm.trans yes)
      exact ⟨a.user, (resolve_stored deadline calm stored fun yes => (uncached yes).elim).imp
        fun _ ran => ⟨own, ran⟩⟩
    | true => exact ⟨u, _, same, resolve_hit deadline cached calm hit⟩

end Resolver

end Gatehouse
