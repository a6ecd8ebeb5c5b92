import Gatehouse.Proofs.Cache
import Gatehouse.Proofs.Job.Interleaving
import Gatehouse.Proofs.Store.Numbering

/-!
Jobs side by side over a store and a cache in memory, while others use the store as well.

Whatever befalls a call, it takes effect at one moment, or never. At any time the clock may go on, others
may register, activate and put accounts and posts into the store, and entries that have expired may be
removed from the cache.

* `Premises`: what the jobs share. `Premises.Tells` is what it may tell them, `Premises.Turns` how it may
  change by itself.
* `Course`: a run, with the pools that it has gone through.
* `Course.after`: each job stands where its own history has led it.
-/

namespace Gatehouse

/-- What jobs share: the moment, a store and a cache. -/
structure Premises where
  now : Nat
  store : Store.Memory
  cache : Cache.Memory

namespace Premises

/-- What may be told to a job, and what is shared after that. A call is answered by the data, or it fails
and does not reach them. A look-up may leave an expired entry for later, and it may miss. -/
inductive Tells (p : Premises) : Event → Premises → Prop where
  | stored (t : Instant) (c : Store.Call) :
    Tells p (.answered (.store c) (p.store.perform t c).1) { p with store := (p.store.perform t c).2 }
  | cached (c : Cache.Call) :
    Tells p (.answered (.cache c) (p.cache.perform p.now c).1)
      { p with cache := (p.cache.perform p.now c).2 }
  | looked (id : Int64) : Tells p (.answered (.cache (.get id)) (p.cache.get p.now id).1) p
  | missed (id : Int64) : Tells p (.answered (.cache (.get id)) (.ok none)) p
  | failed (e : Effect) (error : e.Error) : Tells p (.answered e (.error error)) p
  | woke : Tells p .woke p
  | read (t : Instant) : Tells p (.read t) p

/-- How what is shared may change by itself: time passes, others carry out a deed, or an entry of the cache
is removed if it has expired. -/
inductive Turns (p : Premises) : Premises → Prop where
  | passes (d : Duration) : Turns p { p with now := p.now + d.nanos }
  | deed (t : Instant) (d : Store.Deed) : Turns p { p with store := (p.store.carryOut t d).2 }
  | evicts (id : Int64) : Turns p { p with cache := p.cache.evict p.now id }

variable {p p' : Premises}

/-- What storage answers is what it holds. -/
theorem Tells.stored_eq {id : Int64} {u : User}
    (tells : p.Tells (.answered (.store (.userById id)) (.ok u)) p') : p.store.user? id = some u := by
  generalize answer : (Except.ok u : (Effect.store (.userById id)).Result) = x at tells
  cases tells with
  | stored t c =>
    simp only [Store.Memory.perform, Store.Memory.userById] at answer
    cases stored : p.store.user? id with
    | none =>
      rw [stored] at answer
      cases answer
    | some u' =>
      rw [stored] at answer
      cases answer
      rfl
  | failed e error => cases answer

/-- A user that the cache answers, it has looked up. -/
theorem Tells.looked_eq {id : Int64} {u : User}
    (tells : p.Tells (.answered (.cache (.get id)) (.ok (some u))) p') :
    (p.cache.get p.now id).1 = .ok (some u) := by
  generalize answer : (Except.ok (some u) : (Effect.cache (.get id)).Result) = x at tells
  cases tells with
  | cached c => rfl
  | looked id => rfl
  | missed id => cases answer
  | failed e error => cases answer

/-- Users stand under their own ids, whatever is told. -/
theorem Tells.own {x : Event} (tells : p.Tells x p') (own : p.store.OwnIds) : p'.store.OwnIds := by
  cases tells with
  | stored t c => exact own.carryOut t (.call c)
  | _ => exact own

/-- The cache gains no entry but that of a user who is put in. -/
theorem Tells.entries {x : Event} (tells : p.Tells x p') {k : String} {e : Cache.Entry}
    (mem : (k, e) ∈ p'.cache.entries) :
    (k, e) ∈ p.cache.entries ∨ ∃ u ttl r, x = .answered (.cache (.set u ttl)) r ∧ k = Cache.key u.id ∧
      e.text = User.shape.encode u := by
  cases tells with
  | cached c =>
    rcases p.cache.mem_entries_perform p.now c mem with mem | ⟨u, ttl, rfl, -, key, text⟩
    · exact .inl mem
    · exact .inr ⟨u, ttl, _, rfl, key, text⟩
  | _ => exact .inl mem

theorem Turns.own (turns : p.Turns p') (own : p.store.OwnIds) : p'.store.OwnIds := by
  cases turns with
  | deed t d => exact own.carryOut t d
  | _ => exact own

theorem Turns.entries (turns : p.Turns p') {k : String} {e : Cache.Entry}
    (mem : (k, e) ∈ p'.cache.entries) : (k, e) ∈ p.cache.entries := by
  cases turns with
  | evicts id => exact Cache.Memory.mem_entries_evict mem
  | _ => exact mem

end Premises

/-! ### Runs -/

/-- A run of jobs over premises that has come to a pool, and the pools that it has gone through before, last
one first. -/
inductive Course {ι α : Type} [DecidableEq ι] (σ₀ : Pool Premises ι α) :
    List (Pool Premises ι α) → Pool Premises ι α → Prop where
  | start : Course σ₀ [] σ₀
  | told {past : List (Pool Premises ι α)} {σ σ' : Pool Premises ι α} :
    Course σ₀ past σ → Pool.Step Premises.Tells σ σ' → Course σ₀ (σ :: past) σ'
  | turned {past : List (Pool Premises ι α)} {σ : Pool Premises ι α} {p : Premises} :
    Course σ₀ past σ → σ.shared.Turns p → Course σ₀ (σ :: past) { σ with shared := p }

namespace Course

variable {ι α : Type} [DecidableEq ι] {jobs : ι → Job α} {p : Premises} {past : List (Pool Premises ι α)}
  {σ : Pool Premises ι α}

/-- **Each job stands where its own history has led it.** -/
theorem after (course : Course (.start jobs p) past σ) (i : ι) :
    Job.After (jobs i) (σ.past i) (σ.job i) := by
  induction course generalizing i with
  | start => exact .start
  | told _ step ih => exact step.after ih i
  | turned _ _ ih => exact ih i

/-- A run goes on with a job that waits to be told something. -/
theorem tells {σ₀ : Pool Premises ι α} (course : Course σ₀ past σ) {i : ι} {x : Event} {j j' : Job α}
    (stands : σ.job i = j) (move : Job.Moves j x j') (tells : σ.shared.Tells x p) :
    Course σ₀ (σ :: past) (σ.tell i x j' p) :=
  course.told (.told i (stands ▸ move) tells)

end Course

end Gatehouse
