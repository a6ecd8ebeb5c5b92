import Gatehouse.Proofs.Cache
import Gatehouse.Proofs.Job.Timed
import Gatehouse.Proofs.Resolver

/-!
How old a user can be that the cache remembers.

A resolution puts into the cache what storage has just answered to it, and gives the cache only so long
to take it. So an entry is at most as old as that when it begins to live, whatever other resolutions put
in before and after.

* `resolve_writesBack`: a resolution puts nothing into the cache but what it was told last, by storage.
* `Dated`: every entry, and every user that is about to be put in, was stored at a moment not long ago.
  `Dated.step` is one more step of any of the resolutions, `trace_dated` any number of them.
* `staleness_bounded`: what a look-up then finds.
-/

namespace Gatehouse

namespace Job

variable {α : Type}

/-- The user that storage has answered, if it is that which was told last. -/
def justStored : (e : Effect) → e.Result → Option User
  | .store (.userById _), .ok u => some u
  | _, _ => none

theorem justStored_error (e : Effect) (error : e.Error) : justStored e (.error error) = none := by
  cases e with
  | store c => cases c <;> rfl
  | cache c => rfl

/-- What storage answers is what it holds. -/
theorem user?_of_justStored {m : Store.Memory} {t : Instant} {id : Int64} {u : User}
    (told : justStored (.store (.userById id)) (m.perform t (.userById id)).1 = some u) :
    m.user? id = some u := by
  simp only [Store.Memory.perform, Store.Memory.userById] at told
  cases stored : m.user? id with
  | none =>
    rw [stored] at told
    cases told
  | some u' =>
    rw [stored] at told
    cases told
    rfl

/-- The calls of a resolution, by what it was told last. -/
def Resolves (r : Resolver) (id : Int64) (fresh : Option User) : Effect → Option Duration → Prop
  | .store c, _ => c = .userById id
  | .cache (.get id'), _ => id' = id
  | .cache (.set u ttl), limit => fresh = some u ∧ ttl = r.cacheTtl ∧ limit = some r.cacheTimeout

/-- A job asks storage and the cache for one user only, and puts nothing into the cache but what storage
has just answered. -/
def WritesBack (r : Resolver) (id : Int64) : Job α → Option User → Prop
  | .done _, _ => True
  | .call e limit k, fresh =>
    Resolves r id fresh e limit ∧ ∀ answer, (k answer).WritesBack r id (justStored e answer)
  | .pause _ next, _ => next.WritesBack r id none
  | .wall k, _ => ∀ t, (k t).WritesBack r id none

end Job

namespace Resolver

variable {r : Resolver} {id : Int64}

/-- Storage is asked for the user, and its answer goes on. -/
theorem attempt_writesBack {α : Type} {f : Except Store.Error User → Job α}
    (failed : ∀ e, (f (.error e)).WritesBack r id none) (loaded : ∀ u, (f (.ok u)).WritesBack r id (some u))
    (pauses : List Duration) (fresh : Option User) :
    ((r.attempt id pauses).bind f).WritesBack r id fresh := by
  induction pauses generalizing fresh with
  | nil =>
    refine ⟨rfl, ?_⟩
    intro answer
    cases answer with
    | ok u => exact loaded u
    | error e => exact failed e
  | cons p ps ih =>
    refine ⟨rfl, ?_⟩
    intro answer
    cases answer with
    | ok u => exact loaded u
    | error e =>
      show ((if e.isTransient then _ else _ : Job _).bind f).WritesBack r id _
      split
      · exact ih none
      · exact failed e

theorem loadAndRemember_writesBack (fresh : Option User) :
    (r.loadAndRemember id).WritesBack r id fresh := by
  refine attempt_writesBack ?_ ?_ pauses fresh
  · intro e
    trivial
  · intro u
    refine ⟨⟨rfl, rfl, rfl⟩, ?_⟩
    intro answer
    cases answer <;> trivial

/-- **A resolution puts nothing into the cache but what storage has just answered.** -/
theorem resolve_writesBack (r : Resolver) (id : Int64) : (r.resolve id).WritesBack r id none := by
  cases cached : r.cached with
  | false =>
    rw [r.resolve_eq_load id cached]
    refine attempt_writesBack ?_ ?_ pauses none
    · intro e
      trivial
    · intro u
      trivial
  | true =>
    rw [r.resolve_eq id cached]
    refine ⟨rfl, ?_⟩
    intro answer
    rcases r.lookedUp_cases id answer with ⟨u, -, ends⟩ | ⟨e, -, -, ends⟩ | ⟨-, goesOn⟩
    · rw [ends]
      trivial
    · rw [ends]
      trivial
    · rw [goesOn]
      exact loadAndRemember_writesBack _

end Resolver

namespace Scene

variable {ι : Type} [DecidableEq ι]

/-- Scenes in which users are resolved. -/
abbrev Resolving (ι : Type) := Scene ι (Except Resolver.Error User)

/-- Any number of resolutions that have not begun, each for an id, with one cache, which is empty. -/
def resolutions (r : Resolver) (ids : ι → Int64) (store : Store.Memory) : Resolving ι :=
  start (fun i => r.resolve (ids i)) store

/-- A user was stored under an id at a moment, in one of the scenes of a run. -/
def Held (scenes : List (Resolving ι)) (s : Nat) (id : Int64) (u : User) : Prop :=
  ∃ σ ∈ scenes, σ.now = s ∧ σ.store.user? id = some u

/-- What is known of the users that are in the cache or about to be put in. -/
structure Dated (r : Resolver) (ids : ι → Int64) (past : List (Resolving ι)) (σ : Resolving ι) : Prop where
  own : ∀ σ' ∈ σ :: past, σ'.store.OwnIds
  job : ∀ i, ∃ fresh, (σ.job i).WritesBack r (ids i) fresh ∧
    ∀ u, fresh = some u → ∃ s, σ.since i = some s ∧ Held (σ :: past) s (ids i) u
  entry : ∀ k e, (k, e) ∈ σ.cache.entries → ∃ u s, k = Cache.key u.id ∧ e.text = User.shape.encode u ∧
    Held (σ :: past) s u.id u ∧ e.expiresAt ≤ s + (r.cacheTtl.nanos + r.cacheTimeout.nanos)

variable {r : Resolver} {ids : ι → Int64} {past : List (Resolving ι)} {σ σ' : Resolving ι}

omit [DecidableEq ι] in
theorem Held.later {scenes : List (Resolving ι)} {s : Nat} {id : Int64} {u : User}
    (held : Held scenes s id u) (σ : Resolving ι) : Held (σ :: scenes) s id u := by
  obtain ⟨σ', mem, rest⟩ := held
  exact ⟨σ', .tail _ mem, rest⟩

omit [DecidableEq ι] in
theorem dated_start {store : Store.Memory} (own : store.OwnIds) :
    Dated r ids [] (resolutions r ids store) where
  own _ mem := List.mem_singleton.mp mem ▸ own
  job i := ⟨none, r.resolve_writesBack (ids i), fun _ none => nomatch none⟩
  entry _ _ mem := nomatch mem

omit [DecidableEq ι] in
/-- What may be told to a resolution: storage stays as it is, what it answers is held now, and what is put
into the cache was held not long ago. -/
theorem Dated.told (dated : Dated r ids past σ) (timely : σ.Timely) {i : ι} {s : Nat} {x : Event}
    {j : Job (Except Resolver.Error User)} {store : Store.Memory} {cache : Cache.Memory}
    (begun : σ.since i = some s) (move : Job.Moves (σ.job i) x j) (tells : σ.Tells x store cache) :
    store = σ.store ∧
      (∃ fresh, j.WritesBack r (ids i) fresh ∧ ∀ u, fresh = some u → σ.store.user? (ids i) = some u) ∧
      ∀ k e, (k, e) ∈ cache.entries → (k, e) ∈ σ.cache.entries ∨ ∃ u, k = Cache.key u.id ∧
        e.text = User.shape.encode u ∧ Held (σ :: past) s u.id u ∧
        e.expiresAt ≤ s + (r.cacheTtl.nanos + r.cacheTimeout.nanos) := by
  obtain ⟨fresh, writesBack, recent⟩ := dated.job i
  have bounded := timely i s
  generalize σ.job i = waiting at move writesBack bounded
  cases move with
  | woke d next =>
    cases tells
    exact ⟨rfl, ⟨none, writesBack, fun _ none => nomatch none⟩, fun _ _ mem => .inl mem⟩
  | read k t =>
    cases tells
    exact ⟨rfl, ⟨none, writesBack t, fun _ none => nomatch none⟩, fun _ _ mem => .inl mem⟩
  | answered e limit k answer =>
    obtain ⟨resolves, next⟩ := writesBack
    cases tells with
    | failed e error =>
      refine ⟨rfl, ⟨_, next (.error error), ?_⟩, fun _ _ mem => .inl mem⟩
      intro u told
      rw [Job.justStored_error] at told
      cases told
    | stored t c =>
      obtain rfl : c = .userById (ids i) := resolves
      refine ⟨σ.store.perform_of_reads t trivial, ⟨_, next _, ?_⟩, fun _ _ mem => .inl mem⟩
      intro u told
      exact Job.user?_of_justStored told
    | cached c =>
      refine ⟨rfl, ⟨_, next _, fun _ none => nomatch none⟩, ?_⟩
      intro k e mem
      rcases σ.cache.mem_entries_perform σ.now c mem with mem | ⟨u, ttl, rfl, ends, key, text⟩
      · exact .inl mem
      · obtain ⟨rfl, rfl, rfl⟩ := resolves
        refine .inr ⟨u, key, text, ?_⟩
        -- What is put in was answered when the wait for the cache began, and the wait has a limit.
        obtain ⟨s', since, σ', mem, moment, held⟩ := recent u rfl
        obtain rfl : s = s' := Option.some.inj (begun.symm.trans since)
        have own : u.id = ids i := dated.own σ' mem (ids i) u held
        have waited : σ.now ≤ s + r.cacheTimeout.nanos := bounded _ begun rfl
        have lives : σ.now + r.cacheTtl.nanos = e.expiresAt := by
          unfold Clock.later? at ends
          split at ends
          · exact Option.some.inj ends
          · cases ends
        refine ⟨⟨σ', mem, moment, own ▸ held⟩, ?_⟩
        omega

omit [DecidableEq ι] in
/-- What was known of entries is known in the next scene. -/
theorem Dated.entries_later (dated : Dated r ids past σ) (σ' : Resolving ι) {k : String} {e : Cache.Entry}
    (mem : (k, e) ∈ σ.cache.entries) : ∃ u s, k = Cache.key u.id ∧ e.text = User.shape.encode u ∧
      Held (σ' :: σ :: past) s u.id u ∧ e.expiresAt ≤ s + (r.cacheTtl.nanos + r.cacheTimeout.nanos) := by
  obtain ⟨u, s, key, text, held, lives⟩ := dated.entry k e mem
  exact ⟨u, s, key, text, held.later σ', lives⟩

omit [DecidableEq ι] in
/-- The same of a resolution that nobody tells anything. -/
theorem Dated.job_later (dated : Dated r ids past σ) (σ' : Resolving ι) (i : ι) :
    ∃ fresh, (σ.job i).WritesBack r (ids i) fresh ∧
      ∀ u, fresh = some u → ∃ s, σ.since i = some s ∧ Held (σ' :: σ :: past) s (ids i) u := by
  obtain ⟨fresh, writesBack, recent⟩ := dated.job i
  refine ⟨fresh, writesBack, ?_⟩
  intro u same
  obtain ⟨s, since, held⟩ := recent u same
  exact ⟨s, since, held.later σ'⟩

/-- **One more step**, whichever of the resolutions takes it, or whoever changes what is stored. -/
theorem Dated.step (dated : Dated r ids past σ) (timely : σ.Timely) (step : Step σ σ') :
    Dated r ids (σ :: past) σ' := by
  have own : σ'.store.OwnIds → ∀ σ'' ∈ σ' :: σ :: past, σ''.store.OwnIds := by
    intro now σ'' mem
    rcases List.mem_cons.mp mem with rfl | mem
    · exact now
    · exact dated.own σ'' mem
  have before : σ.store.OwnIds := dated.own σ (.head _)
  cases step with
  | begins i unbegun =>
    refine ⟨own before, ?_, fun k e mem => dated.entries_later _ mem⟩
    intro i'
    obtain ⟨fresh, writesBack, recent⟩ := dated.job_later _ i'
    refine ⟨fresh, writesBack, ?_⟩
    intro u same
    obtain ⟨s, since, held⟩ := recent u same
    have other : i' ≠ i := by
      rintro rfl
      cases unbegun.symm.trans since
    exact ⟨s, by simpa [other] using since, held⟩
  | told i begun move tells =>
    obtain ⟨rfl, ⟨fresh, writesBack, told⟩, entries⟩ := dated.told timely begun move tells
    refine ⟨own before, ?_, ?_⟩
    · intro i'
      by_cases same : i' = i
      · subst same
        refine ⟨fresh, by simpa using writesBack, ?_⟩
        intro u answered
        exact ⟨σ.now, by simp, σ, .tail _ (.head _), rfl, told u answered⟩
      · simpa [same] using dated.job_later _ i'
    · intro k e mem
      rcases entries k e mem with mem | ⟨u, key, text, held, lives⟩
      · exact dated.entries_later _ mem
      · exact ⟨u, _, key, text, held.later _, lives⟩
  | changes store lawful =>
    exact ⟨own lawful, dated.job_later _, fun k e mem => dated.entries_later _ mem⟩
  | passes d exact' =>
    exact ⟨own before, dated.job_later _, fun k e mem => dated.entries_later _ mem⟩

theorem trace_dated {store : Store.Memory} (own : store.OwnIds)
    (trace : Trace (resolutions r ids store) past σ) : Dated r ids past σ := by
  induction trace with
  | start => exact dated_start own
  | step trace step ih => exact ih.step trace.timely step

/-- **Staleness is bounded.** Take any number of resolutions that share a cache, in any interleaving with
each other, with changes to what is stored and with the passing of time. A user that the cache answers to
one of them is one that storage has held under its id, at a moment that is less than the life of an entry
and the limit for the cache ago. -/
theorem staleness_bounded (r : Resolver) (ids : ι → Int64) {store : Store.Memory} (own : store.OwnIds)
    (trace : Trace (resolutions r ids store) past σ) {i : ι} {id : Int64} {u : User}
    {j : Job (Except Resolver.Error User)} {store' : Store.Memory} {cache' : Cache.Memory}
    (move : Job.Moves (σ.job i) (.answered (.cache (.get id)) (.ok (some u))) j)
    (tells : σ.Tells (.answered (.cache (.get id)) (.ok (some u))) store' cache') :
    id = ids i ∧ ∃ σ' ∈ σ :: past, σ'.now ≤ σ.now ∧
      σ.now < σ'.now + (r.cacheTtl.nanos + r.cacheTimeout.nanos) ∧ σ'.store.user? id = some u := by
  have dated := trace_dated own trace
  have asked : id = ids i := by
    obtain ⟨fresh, writesBack, -⟩ := dated.job i
    generalize σ.job i = waiting at move writesBack
    cases move with
    | answered e limit k answer => exact writesBack.1
  have answered : (σ.cache.get σ.now id).1 = .ok (some u) := tells.eq_perform
  obtain ⟨e, mem, early, text⟩ := Cache.Memory.get_eq_some answered
  obtain ⟨u', s, key, encoded, ⟨σ', held, moment, stored⟩, lives⟩ := dated.entry _ e mem
  obtain rfl := Cache.key_injective key
  have same : u' = u := by
    rw [encoded, Cache.Memory.readUser, User.decode_encode] at text
    cases text
    rfl
  subst same
  refine ⟨asked, σ', held, ?_, by omega, stored⟩
  rcases List.mem_cons.mp held with rfl | earlier
  · exact Nat.le_refl _
  · exact trace.now_le σ' earlier

/-- An entry outlives its span: a user is stored anew just after it was read, and what was read is put into
the cache as late as it may be. -/
theorem staleness_bounded_late :
    let r : Resolver := ⟨true, ⟨3⟩, ⟨2⟩, ⟨10⟩, .degrade⟩
    let before := (Store.Memory.seeded.insertUser .epoch 1 "a" "user" "" true).2
    let after := (Store.Memory.seeded.insertUser .epoch 1 "b" "user" "" true).2
    ∃ past σ j u, Trace (resolutions r (fun _ : Bool => 1) before) past σ ∧ before.OwnIds ∧
      Job.Moves (σ.job false) (.answered (.cache (.get 1)) (.ok (some u))) j ∧
      σ.Tells (.answered (.cache (.get 1)) (.ok (some u))) σ.store σ.cache ∧
      σ.now = 4 ∧ σ.store = after ∧ σ.store.user? 1 ≠ some u ∧
      ∃ σ' ∈ σ :: past, σ'.now ≤ 4 ∧ 4 < σ'.now + (3 + 2) ∧ σ'.store.user? 1 = some u := by
  intro r before after
  have own (name : String) : (Store.Memory.seeded.insertUser .epoch 1 name "user" "" true).2.OwnIds :=
    (Store.Memory.run_sound [(.epoch, .insertUser 1 name "user" "" true)]).ownIds
  let u : User := ⟨1, "a", "a@agora.test", ⟨1, "user", "A user can create posts and comments", 1⟩, true, .epoch⟩
  -- The first resolution reads the user, which is then stored anew.
  have begun : Trace (resolutions r (fun _ : Bool => 1) before) _ _ := .step .start (.begins true rfl)
  have missed := begun.step (.told true (s := 0) rfl (.answered _ _ _ _) (.cached (.get 1)))
  have read := missed.step (.told true (s := 0) rfl (.answered _ _ _ _) (.stored .epoch (.userById 1)))
  have changed := read.step (.changes after (own "b"))
  -- It puts the user into the cache at the end of its limit, and the second one begins.
  have late := changed.step (.passes ⟨2⟩ (by
    rintro (_ | _) s limit since bound
    · cases since
    · cases since
      cases bound
      decide))
  have put := late.step (.told true (s := 0) rfl (.answered _ _ _ _) (.cached (.set _ _)))
  have later := put.step (.passes ⟨2⟩ (by
    rintro (_ | _) s limit since bound
    · cases since
    · cases bound))
  obtain ⟨past, σ, trace, now, store, waits, cached⟩ : ∃ past σ,
      Trace (resolutions r (fun _ : Bool => 1) before) past σ ∧ σ.now = 4 ∧ σ.store = after ∧
        σ.job false = r.resolve 1 ∧ σ.cache.find? (Cache.key 1) = some ⟨User.shape.encode u, 5⟩ :=
    ⟨_, _, later.step (.begins false rfl), rfl, rfl, rfl, (Table.find?_insert ..).trans (if_pos rfl)⟩
  have answered : σ.cache.get σ.now 1 = (.ok (some u), σ.cache) := by
    refine Cache.Memory.get_of_find? cached ?_
    rw [now]
    decide
  have tells : σ.Tells (.answered (.cache (.get 1)) (.ok (some u))) σ.store σ.cache := by
    have told : σ.Tells (.answered (.cache (.get 1)) (σ.cache.get σ.now 1).1) σ.store (σ.cache.get σ.now 1).2 :=
      .cached (.get 1)
    rwa [answered] at told
  obtain ⟨j, move⟩ : ∃ j, Job.Moves (σ.job false) (.answered (.cache (.get 1)) (.ok (some u))) j := by
    rw [waits]
    exact ⟨_, .answered _ _ _ _⟩
  have bounded := (staleness_bounded r (fun _ => 1) (own "a") trace move tells).2
  rw [now] at bounded
  refine ⟨past, σ, j, u, trace, own "a", move, tells, now, store, ?_, bounded⟩
  rw [store]
  decide

end Scene

end Gatehouse
