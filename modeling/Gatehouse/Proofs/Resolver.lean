import Gatehouse.Proofs.Job.Run
import Gatehouse.Resolver

/-!
What a resolution touches.

* `resolve_eq`, `resolve_eq_load`: a resolution with a cache begins with a look-up, one without loads the
  user. `lookedUp_cases` is how a look-up leads on.
* `resolve_only`: a resolution asks storage for the one user, consults the cache, and calls nothing
  else.
* `run_resolve`: whatever befalls its calls, and whether or not it is given up, it leaves all that is
  stored as it is, and no other call is counted.
-/

namespace Gatehouse

namespace Resolver

/-! ### Its calls -/

/-- The calls that belong to the resolution of a user. -/
def Consults (id : Int64) : Effect → Prop
  | .store c => c = .userById id
  | .cache _ => True

/-- Storage is asked for the one user, however often. -/
theorem attempt_reads (r : Resolver) (id : Int64) (pauses : List Duration) :
    (r.attempt id pauses).Only (· = .store (.userById id)) := by
  induction pauses with
  | nil => exact ⟨rfl, fun _ => trivial⟩
  | cons p ps ih =>
    refine ⟨rfl, fun answer => ?_⟩
    cases answer with
    | ok u => trivial
    | error e =>
      show Job.Only _ (if e.isTransient then _ else _)
      split
      · exact ih
      · trivial

theorem attempt_only (r : Resolver) (id : Int64) (pauses : List Duration) :
    (r.attempt id pauses).Only (Consults id) := by
  refine (r.attempt_reads id pauses).mono fun e reads => ?_
  subst reads
  rfl

theorem loadAndRemember_only (r : Resolver) (id : Int64) :
    (r.loadAndRemember id).Only (Consults id) := by
  refine (r.attempt_only id pauses).bind fun loaded => ?_
  cases loaded with
  | error e => trivial
  | ok u =>
    refine ⟨trivial, fun answer => ?_⟩
    cases answer <;> trivial

/-- How a resolution goes on with the look-up of a user. -/
def lookedUp (r : Resolver) (id : Int64) : Except Cache.Error (Option User) → Job (Except Error User)
  | .ok (some u) => .done (.ok u)
  | .ok none => r.loadAndRemember id
  | .error e =>
    match r.onCacheError e with
    | .error x => .done (.error x)
    | .ok _ => r.loadAndRemember id

theorem resolve_eq (r : Resolver) (id : Int64) (cached : r.cached = true) :
    r.resolve id = .call (.cache (.get id)) (some r.cacheTimeout) (r.lookedUp id) := by
  rw [resolve, cached]
  refine congrArg (Job.call _ _) (funext fun x => ?_)
  match x with
  | .ok none => rfl
  | .ok (some u) => rfl
  | .error e => rfl

/-- **How a look-up leads on**: to the user that the cache knows, to the failure of the cache under the strict
policy, or else to storage. -/
theorem lookedUp_cases (r : Resolver) (id : Int64) (x : Except Cache.Error (Option User)) :
    (∃ u, x = .ok (some u) ∧ r.lookedUp id x = .done (.ok u)) ∨
    (∃ e, x = .error e ∧ r.policy = .strict ∧ r.lookedUp id x = .done (.error (.cache e))) ∨
    ((r.policy = .strict → x = .ok none) ∧ r.lookedUp id x = r.loadAndRemember id) := by
  cases x with
  | ok found =>
    cases found with
    | some u => exact .inl ⟨u, rfl, rfl⟩
    | none => exact .inr (.inr ⟨fun _ => rfl, rfl⟩)
  | error e =>
    simp only [lookedUp, onCacheError]
    cases r.policy with
    | strict => exact .inr (.inl ⟨e, rfl, rfl, rfl⟩)
    | degrade =>
      refine .inr (.inr ⟨?_, rfl⟩)
      rintro ⟨⟩

theorem resolve_eq_load (r : Resolver) (id : Int64) (uncached : r.cached = false) :
    r.resolve id = (r.load id).bind fun x => .done (x.mapError Error.store) := by
  rw [resolve, uncached]
  rfl

theorem resolve_only (r : Resolver) (id : Int64) : (r.resolve id).Only (Consults id) := by
  cases cached : r.cached with
  | false =>
    rw [r.resolve_eq_load id cached]
    exact (r.attempt_only id pauses).bind fun _ => trivial
  | true =>
    rw [r.resolve_eq id cached]
    refine ⟨trivial, fun answer => ?_⟩
    rcases r.lookedUp_cases id answer with ⟨u, -, ends⟩ | ⟨e, -, -, ends⟩ | ⟨-, goesOn⟩
    · rw [ends]
      trivial
    · rw [ends]
      trivial
    · rw [goesOn]
      exact r.loadAndRemember_only id

/-! ### Its traces -/

/-- The names under which the calls of resolutions are counted. -/
def consulted : List String := ["users.get_by_id", "cache.get", "cache.set"]

/-- From one world to another, nothing stored has changed, and no call has been counted but those
of resolutions. -/
structure Spares (w w' : World) : Prop where
  store : w'.backend.store = w.backend.store
  calls : ∀ name, name ∉ consulted → w'.backend.calls.find? name = w.backend.calls.find? name

theorem Consults.name_mem {id : Int64} {e : Effect} (h : Consults id e) : e.name ∈ consulted := by
  cases e with
  | store c =>
    obtain rfl : c = .userById id := h
    exact List.mem_cons_self
  | cache c => cases c <;> simp [consulted, Effect.name, Cache.Call.name]

/-- **Whatever its calls do, and however long they take, a resolution spares the rest.** -/
theorem kept_spares (id : Int64) : Job.Kept (Consults id) Spares where
  refl _ := ⟨rfl, fun _ _ => rfl⟩
  trans h₁ h₂ := ⟨h₂.store.trans h₁.store, fun n hn => (h₂.calls n hn).trans (h₁.calls n hn)⟩
  reach _ _ := ⟨rfl, fun _ _ => rfl⟩
  dial w e h := by
    refine ⟨rfl, fun n hn => ?_⟩
    have other : e.name ≠ n := fun same => hn (same ▸ h.name_mem)
    exact Table.find?_insert_of_ne other ..
  perform w e h := by
    cases e with
    | store c =>
      obtain rfl : c = .userById id := h
      refine ⟨?_, fun _ _ => rfl⟩
      show (w.backend.store.answer _).2 = _
      cases w.backend.store.user? id <;> rfl
    | cache c => exact ⟨rfl, fun _ _ => rfl⟩

theorem run_resolve (r : Resolver) (id : Int64) (deadline : Option Nat) (w : World) :
    Spares w ((r.resolve id).run deadline w).2 :=
  Job.run_preserves (kept_spares id) (r.resolve_only id) deadline w

end Resolver

end Gatehouse
