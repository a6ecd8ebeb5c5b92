import Gatehouse.Proofs.Job.History
import Gatehouse.Proofs.Resolver.Calm
import Gatehouse.Proofs.Store.Numbering
import Gatehouse.Proofs.Store.Posts

/-!
Whom a resolution finds, and what it leaves in the cache.

* `resolve_abides`: a resolution comes to a user that it has been told of, and puts nobody into the cache
  but users that storage has answered.
* `resolve_again`: if nothing befalls its calls, the same resolution comes to the same user once more.
-/

namespace Gatehouse

/-- A job has been told of a user under an id, by storage or by the cache. -/
def Identified (id : Int64) (u : User) (h : History) : Prop :=
  .answered (.store (.userById id)) (.ok u) ∈ h ∨ .answered (.cache (.get id)) (.ok (some u)) ∈ h

/-- What may be put into the cache after a history: users that storage has answered. -/
def PutsRead (h : History) : Effect → Prop
  | .cache (.set u _) => ∃ id, .answered (.store (.userById id)) (.ok u) ∈ h
  | _ => True

namespace Resolver

variable (r : Resolver) (id : Int64)

/-! ### What it has been told -/

theorem attempt_abides (pauses : List Duration) (h : History) :
    (r.attempt id pauses).Abides PutsRead
      (fun h x => ∀ u, x = .ok u → .answered (.store (.userById id)) (.ok u) ∈ h) h := by
  have told (h : History) (x : Except Store.Error User) : ∀ u, x = .ok u →
      .answered (.store (.userById id)) (.ok u) ∈ h ++ [.answered (.store (.userById id)) x] := by
    rintro u rfl
    simp
  induction pauses generalizing h with
  | nil => exact ⟨trivial, told h⟩
  | cons p ps ih =>
    refine ⟨trivial, fun x => ?_⟩
    cases x with
    | ok u => exact told h (.ok u)
    | error e =>
      show Job.Abides _ _ (if e.isTransient then _ else _) _
      split
      · exact ih _
      · exact told h (.error e)

/-- A user that is read is put into the cache after that, and is the result if there is one. -/
theorem loadAndRemember_abides (h : History) :
    (r.loadAndRemember id).Abides PutsRead (fun h x => ∀ u, x = .ok u → Identified id u h) h := by
  refine (r.attempt_abides id pauses h).bind fun h x told => ?_
  cases x with
  | error e => exact fun u found => nomatch found
  | ok u =>
    have read := told u rfl
    have found (x : (Effect.cache (.set u r.cacheTtl)).Result) :
        Identified id u (h ++ [.answered (.cache (.set u r.cacheTtl)) x]) :=
      .inl (List.mem_append_left _ read)
    refine ⟨⟨id, read⟩, fun x => ?_⟩
    cases x with
    | ok _ =>
      rintro _ ⟨⟩
      exact found (.ok _)
    | error e =>
      intro u' kept
      cases policy : r.onCacheError e with
      | error x =>
        rw [policy] at kept
        cases kept
      | ok _ =>
        rw [policy] at kept
        cases kept
        exact found (.error e)

/-- **A resolution comes to a user that it has been told of**, and puts nobody into the cache but users that
storage has answered. -/
theorem resolve_abides (h : History) :
    (r.resolve id).Abides PutsRead (fun h x => ∀ u, x = .ok u → Identified id u h) h := by
  cases cached : r.cached with
  | false =>
    rw [r.resolve_eq_load id cached]
    refine (r.attempt_abides id pauses h).bind fun h x told u found => ?_
    cases x with
    | error e => cases found
    | ok u' =>
      cases found
      exact .inl (told _ rfl)
  | true =>
    rw [r.resolve_eq id cached]
    refine ⟨trivial, fun x => ?_⟩
    rcases r.lookedUp_cases id x with ⟨u, rfl, ends⟩ | ⟨e, -, -, ends⟩ | ⟨-, goesOn⟩
    · rw [ends]
      rintro _ ⟨⟩
      exact .inr (List.mem_append_right _ (.head _))
    · rw [ends]
      rintro _ ⟨⟩
    · rw [goesOn]
      exact r.loadAndRemember_abides id _

/-- What has led a resolution to a user. -/
theorem identified_of_after {h : History} {u : User} (after : Job.After (r.resolve id) h (.done (.ok u))) :
    Identified id u h :=
  after.abides (r.resolve_abides id []) u rfl

/-! ### Once more -/

variable {r id} {w : World} {u : User} (deadline : Option Nat)

/-- A look-up in storage leaves it as it is. -/
theorem store_answer_userById : (w.answer (.store (.userById id))).2.backend.store = w.backend.store :=
  w.backend.store.perform_of_reads w.today (c := .userById id) trivial

/-- A user that has been read and put in where nobody was is resolved after that. -/
theorem resolve_remembered (calm : w.backend.script.Calm) (absent : w.backend.cache.find? (Cache.key id) = none)
    (stored : w.backend.store.user? id = some u) (same : u.id = id) :
    ∃ w', (r.resolve id).run deadline
      ((w.answer (.store (.userById id))).2.answer (.cache (.set u r.cacheTtl))).2 = (some (.ok u), w') := by
  refine resolve_stored deadline (World.calm_answer (World.calm_answer calm _) _) ?_ fun _ => ?_
  · have kept : ((w.answer (.store (.userById id))).2.answer (.cache (.set u r.cacheTtl))).2.backend.store =
        (w.answer (.store (.userById id))).2.backend.store := rfl
    rw [kept, store_answer_userById]
    exact stored
  · have put : ((w.answer (.store (.userById id))).2.answer (.cache (.set u r.cacheTtl))).2.backend.cache =
        (w.backend.cache.set w.clock.now u r.cacheTtl).2 := rfl
    have moment : ((w.answer (.store (.userById id))).2.answer (.cache (.set u r.cacheTtl))).2.clock.now =
        w.clock.now := rfl
    rw [put, moment, ← same]
    exact Cache.Memory.get_set (same ▸ absent) w.clock.now r.cacheTtl

/-- **Who is resolved has the id that was asked for, and is resolved once more**, as long as nothing befalls the
calls and nothing else happens in between. -/
theorem resolve_again (calm : w.backend.script.Calm) (faithful : w.backend.cache.Faithful)
    (own : w.backend.store.OwnIds) {w' : World}
    (resolved : (r.resolve id).run deadline w = (some (.ok u), w')) :
    u.id = id ∧ ∃ w'', (r.resolve id).run deadline w' = (some (.ok u), w'') := by
  cases cached : r.cached with
  | false =>
    obtain ⟨stored, rfl⟩ := stored_of_resolved deadline calm cached resolved
    have kept : (w.answer (.store (.userById id))).2.backend.store.user? id = some u := by
      rw [store_answer_userById]
      exact stored
    refine ⟨own id u stored, resolve_stored deadline (World.calm_answer calm _) kept fun cached' => ?_⟩
    cases cached'.symm.trans cached
  | true =>
    have calmLooked := World.calm_answer calm (.cache (.get id))
    rcases faithful.get w.clock.now id with missed | ⟨v, same, hit⟩
    · rw [resolve_miss deadline cached calm missed] at resolved
      have absent : (w.answer (.cache (.get id))).2.backend.cache.find? (Cache.key id) = none :=
        Cache.Memory.get_missed missed
      replace own : (w.answer (.cache (.get id))).2.backend.store.OwnIds := own
      generalize (w.answer (.cache (.get id))).2 = w at resolved calmLooked absent own
      cases stored : w.backend.store.user? id with
      | none =>
        rw [loadAndRemember_missing_calm deadline calmLooked stored] at resolved
        cases resolved
      | some v =>
        rw [loadAndRemember_found_calm deadline calmLooked stored] at resolved
        obtain ⟨found, rfl⟩ := Prod.mk.inj resolved
        cases found
        have same := own id u stored
        exact ⟨same, resolve_remembered deadline calmLooked absent stored same⟩
    · rw [resolve_hit deadline cached calm hit] at resolved
      obtain ⟨found, rfl⟩ := Prod.mk.inj resolved
      cases found
      have kept : (w.answer (.cache (.get id))).2.backend.cache = w.backend.cache :=
        Cache.Memory.get_found hit
      refine ⟨same, _, resolve_hit deadline cached calmLooked ?_⟩
      rw [kept]
      exact hit

end Resolver

end Gatehouse
