import Gatehouse.Proofs.Job.Setting
import Gatehouse.Proofs.Resolver

/-!
A cache that fails.

A resolver whose cache knows no user, whatever else the cache does, is compared with one that has no cache,
where storage does the same.

* `attempt_meet`: reading storage comes to a result, which is the last thing that is told.
* `outage`: the three ways in which a resolution may go then.
* `failing_cache`: what that means under either policy.
-/

namespace Gatehouse

/-- Whether an event is the answer to a call of storage. -/
def Event.isOfStorage : Event → Bool
  | .answered (.store _) _ => true
  | _ => false

namespace Resolver

variable (r : Resolver) (id : Int64) (s : Setting)

/-! ### Reading storage -/

/-- Nothing that has been told is a user: a pause is over, or a read has failed. -/
def Fruitless (id : Int64) (h : History) : Prop :=
  ∀ x ∈ h, x = .woke ∨ ∃ e, x = .answered (.store (.userById id)) (.error e)

/-- **Reading storage comes to a result**: what the last read has answered. -/
theorem attempt_meet (pauses : List Duration) :
    ∃ x before, ((r.attempt id pauses).meet s).result = some x ∧
      ((r.attempt id pauses).meet s).events = before ++ [.answered (.store (.userById id)) x] ∧
      Fruitless id before := by
  have last (x : Except Store.Error User) : ∃ before, [Event.answered (.store (.userById id)) x] =
      before ++ [.answered (.store (.userById id)) x] ∧ Fruitless id before :=
    ⟨[], rfl, fun x mem => nomatch mem⟩
  induction pauses generalizing s with
  | nil => exact ⟨_, (last _).imp fun before told => ⟨rfl, told⟩⟩
  | cons p ps ih =>
    simp only [attempt, Job.meet, Fate.within]
    rcases (s.fate (.store (.userById id))).met r.storageTimeout with ⟨d, x⟩
    cases x with
    | ok u => exact ⟨.ok u, (last (.ok u)).imp fun before told => ⟨rfl, told⟩⟩
    | error e =>
      by_cases transient : e.isTransient = true
      · simp only [if_pos transient, Job.meet]
        obtain ⟨x, before, result, events, fruitless⟩ :=
          ih (((s.dialled (.store (.userById id))).later d).later p)
        refine ⟨x, .answered (.store (.userById id)) (.error e) :: .woke :: before, result, ?_, ?_⟩
        · simp only [Encounter.events_after, events]
          rfl
        · rintro x (_ | ⟨_, _ | ⟨_, mem⟩⟩)
          · exact .inr ⟨e, rfl⟩
          · exact .inl rfl
          · exact fruitless x mem
      · simp only [if_neg transient]
        exact ⟨.error e, (last (.error e)).imp fun before told => ⟨rfl, told⟩⟩

theorem load_ofStorage : (r.load id).Only Job.OfStorage := by
  refine (r.attempt_reads id pauses).mono fun e reads => ?_
  subst reads
  trivial

/-! ### A cache that knows no user -/

/-- The same resolver without a cache. -/
def uncached : Resolver := { r with cached := false }

/-- What a resolution makes of the look-up of a user. -/
def lookUp : Except Cache.Error (Option User) := ((s.cache 0 (.get id)).met r.cacheTimeout).2

/-- What it makes of putting a user into the cache after that. -/
def putIn (u : User) : Except Cache.Error Unit := ((s.cache 1 (.set u r.cacheTtl)).met r.cacheTimeout).2

/-- What it comes to when a user that was read has been put into the cache, or has not. -/
def outcome (u : User) : Except Cache.Error Unit → Except Error User
  | .ok _ => .ok u
  | .error e => (r.onCacheError e).map fun _ => u

/-- Without a cache, a user is what storage answers. -/
theorem uncached_meet :
    ((r.uncached.resolve id).meet s).result =
        (((r.load id).meet s).result.map fun x => x.mapError .store) ∧
      ((r.uncached.resolve id).meet s).events = ((r.load id).meet s).events := by
  have unfolds : r.uncached.resolve id = (r.load id).bind fun x => .done (x.mapError .store) :=
    r.uncached.resolve_eq_load id rfl
  rw [unfolds, Job.meet_bind, Encounter.andThen]
  cases ((r.load id).meet s).result with
  | none => exact ⟨rfl, rfl⟩
  | some x => exact ⟨rfl, by simp [Encounter.after, Encounter.events, Job.meet]⟩

/-- How a resolution goes whose cache knows no user: it ends with the failure of the cache, it ends with
the failure of storage, or it puts the user that is read into the cache. -/
inductive Outage (bare m : Encounter (Except Error User)) : Prop where
  | cut (e : Cache.Error) (strict : r.policy = .strict) (fails : r.lookUp id s = .error e)
    (result : m.result = some (.error (.cache e)))
    (events : m.events = [.answered (.cache (.get id)) (.error e)])
  | refused (e : Store.Error) (goesOn : r.policy = .strict → r.lookUp id s = .ok none)
    (without : bare.result = some (.error (.store e))) (result : m.result = bare.result)
    (events : m.events = .answered (.cache (.get id)) (r.lookUp id s) :: bare.events)
    (fruitless : Fruitless id bare.events)
  | found (u : User) (goesOn : r.policy = .strict → r.lookUp id s = .ok none)
    (without : bare.result = some (.ok u))
    (result : m.result = some (r.outcome u (r.putIn s u)))
    (events : m.events = .answered (.cache (.get id)) (r.lookUp id s) :: bare.events ++
      [.answered (.cache (.set u r.cacheTtl)) (r.putIn s u)])
    (read : ∃ before, bare.events = before ++ [.answered (.store (.userById id)) (.ok u)] ∧
      Fruitless id before)

variable {r id s} {s' : Setting}

/-- What storage refuses to tell is not put into the cache. -/
theorem loadAndRemember_refused (alike : s.Alike s') {e : Store.Error}
    (loaded : ((r.load id).meet s).result = some (.error e)) :
    ((r.loadAndRemember id).meet s').result = some (.error (.store e)) ∧
      ((r.loadAndRemember id).meet s').events = ((r.load id).meet s).events := by
  obtain ⟨result, events, -⟩ := Job.meet_alike (r.load_ofStorage id) alike
  rw [loadAndRemember, Job.meet_bind, Encounter.andThen, ← result, loaded, events]
  exact ⟨rfl, by simp [Encounter.after, Encounter.events, Job.meet]⟩

theorem remember_meet (r : Resolver) (u : User) (s : Setting) :
    ((r.remember u).meet s).result =
        some (r.outcome u ((s.cache 0 (.set u r.cacheTtl)).met r.cacheTimeout).2) ∧
      ((r.remember u).meet s).events =
        [.answered (.cache (.set u r.cacheTtl)) ((s.cache 0 (.set u r.cacheTtl)).met r.cacheTimeout).2] := by
  simp only [remember, Job.meet, Setting.fate, Fate.within]
  cases ((s.cache 0 (.set u r.cacheTtl)).met r.cacheTimeout).2 with
  | ok _ => exact ⟨rfl, rfl⟩
  | error e => exact ⟨rfl, rfl⟩

/-- A user that storage tells is put into the cache once. -/
theorem loadAndRemember_found (alike : s.Alike s') {u : User}
    (loaded : ((r.load id).meet s).result = some (.ok u)) :
    ((r.loadAndRemember id).meet s').result =
        some (r.outcome u ((s'.cache 0 (.set u r.cacheTtl)).met r.cacheTimeout).2) ∧
      ((r.loadAndRemember id).meet s').events = ((r.load id).meet s).events ++
        [.answered (.cache (.set u r.cacheTtl))
          ((s'.cache 0 (.set u r.cacheTtl)).met r.cacheTimeout).2] := by
  obtain ⟨result, events, -⟩ := Job.meet_alike (r.load_ofStorage id) alike
  obtain ⟨-, -, -, cache⟩ := Job.meet_alike (r.load_ofStorage id) (s := s') ⟨rfl, rfl⟩
  have put := r.remember_meet u ((r.load id).meet s').left
  rw [cache] at put
  rw [loadAndRemember, Job.meet_bind, Encounter.andThen, ← result, loaded, events,
    Encounter.events_after]
  exact ⟨put.1, congrArg _ put.2⟩

/-- What follows a look-up that does not end a resolution. -/
theorem outage_of_goesOn {m : Encounter (Except Error User)} (d : Duration)
    (goesOn : r.policy = .strict → r.lookUp id s = .ok none)
    (rest : m = ((r.loadAndRemember id).meet ((s.dialled (.cache (.get id))).later d)).after
      [⟨.answered (.cache (.get id)) (r.lookUp id s), s.now, s.now + d.nanos⟩]) :
    Outage r id s ((r.uncached.resolve id).meet s) m := by
  subst rest
  have alike : s.Alike ((s.dialled (.cache (.get id))).later d) := ⟨rfl, rfl⟩
  obtain ⟨bare, told⟩ := r.uncached_meet id s
  obtain ⟨x, before, loaded, events, fruitless⟩ := r.attempt_meet id s pauses
  replace events := told.trans events
  rw [show (r.attempt id pauses) = r.load id from rfl] at loaded
  rw [loaded] at bare
  cases x with
  | error e =>
    obtain ⟨result, rest⟩ := loadAndRemember_refused alike loaded
    refine .refused e goesOn bare (result.trans bare.symm) ?_ fun x mem => ?_
    · rw [Encounter.events_after, rest, told]
      rfl
    · rw [events] at mem
      rcases List.mem_append.mp mem with mem | mem
      · exact fruitless x mem
      · exact .inr ⟨e, List.mem_singleton.mp mem⟩
  | ok u =>
    obtain ⟨result, rest⟩ := loadAndRemember_found alike loaded
    refine .found u goesOn bare result ?_ ⟨before, events, fruitless⟩
    rw [Encounter.events_after, rest, told]
    rfl

/-- **A resolution whose cache knows no user** goes in one of three ways. -/
theorem outage (cached : r.cached = true) (unknown : ∀ u, r.lookUp id s ≠ .ok (some u)) :
    Outage r id s ((r.uncached.resolve id).meet s) ((r.resolve id).meet s) := by
  rcases look : (s.cache 0 (.get id)).met r.cacheTimeout with ⟨d, y⟩
  have looked : r.lookUp id s = y := congrArg Prod.snd look
  have meets : (r.resolve id).meet s =
      ((r.lookedUp id y).meet ((s.dialled (.cache (.get id))).later d)).after
        [⟨.answered (.cache (.get id)) (r.lookUp id s), s.now, s.now + d.nanos⟩] := by
    rw [r.resolve_eq id cached, Job.meet, Setting.fate, Fate.within, look, looked]
  rcases r.lookedUp_cases id y with ⟨u, rfl, -⟩ | ⟨e, rfl, strict, ends⟩ | ⟨misses, goesOn⟩
  · exact absurd looked (unknown u)
  · rw [ends, looked] at meets
    exact .cut e strict looked (congrArg Encounter.result meets) (congrArg Encounter.events meets)
  · rw [goesOn] at meets
    exact outage_of_goesOn d (fun strict => looked.trans (misses strict)) meets

/-! ### What it means -/

/-- In a history no user is read from storage, and none is put into the cache. -/
structure Barren (h : History) : Prop where
  read : ∀ i u, .answered (.store (.userById i)) (.ok u) ∉ h
  put : ∀ u ttl x, .answered (.cache (.set u ttl)) x ∉ h

theorem Fruitless.barren {h : History} (fruitless : Fruitless id h) : Barren h where
  read i u mem := by
    rcases fruitless _ mem with woke | ⟨e, failed⟩
    · cases woke
    · cases failed
  put u ttl x mem := by
    rcases fruitless _ mem with woke | ⟨e, failed⟩
    · cases woke
    · cases failed

theorem Barren.lookedUp {h : History} (barren : Barren h) (x : Except Cache.Error (Option User)) :
    Barren (.answered (.cache (.get id)) x :: h) where
  read i u mem := by
    rcases List.mem_cons.mp mem with here | mem
    · cases here
    · exact barren.read i u mem
  put u ttl x mem := by
    rcases List.mem_cons.mp mem with here | mem
    · cases here
    · exact barren.put u ttl x mem

namespace Outage

variable {bare m : Encounter (Except Error User)}

/-- Both resolutions come to a result. -/
theorem results (outage : Outage r id s bare m) (ends : ∃ x, bare.result = some x) :
    (∃ x, m.result = some x) ∧ ∃ x, bare.result = some x := by
  refine ⟨?_, ends⟩
  cases outage with
  | cut e strict fails result events => exact ⟨_, result⟩
  | refused e goesOn without result events fruitless => exact ⟨_, result.trans without⟩
  | found u goesOn without result events read => exact ⟨_, result⟩

/-- If the resolution goes on, storage is called as it is without a cache. -/
theorem storage (outage : Outage r id s bare m) (goesOn : r.policy = .strict → r.lookUp id s = .ok none) :
    m.events.filter Event.isOfStorage = bare.events.filter Event.isOfStorage := by
  cases outage with
  | cut e strict fails result events => cases (goesOn strict).symm.trans fails
  | refused e goesOn without result events fruitless =>
    rw [events]
    exact List.filter_cons_of_neg Bool.false_ne_true
  | found u goesOn without result events read =>
    rw [events, List.cons_append, List.filter_cons_of_neg (by exact Bool.false_ne_true), List.filter_append]
    exact List.append_nil _

/-- A cache that is passed over. -/
theorem degrade (outage : Outage r id s bare m) (policy : r.policy = .degrade) :
    m.result = bare.result ∧ ∀ e, m.result ≠ some (.error (.cache e)) := by
  cases outage with
  | cut e strict => cases policy.symm.trans strict
  | refused e goesOn without result =>
    refine ⟨result, fun e' failed => ?_⟩
    cases (result.trans without).symm.trans failed
  | found u goesOn without result =>
    have passed : r.outcome u (r.putIn s u) = .ok u := by
      cases r.putIn s u with
      | ok _ => rfl
      | error e => simp only [outcome, onCacheError, policy, Except.map]
    rw [passed] at result
    refine ⟨result.trans without.symm, fun e' failed => ?_⟩
    cases result.symm.trans failed

/-- A cache whose failures count. -/
theorem strict (outage : Outage r id s bare m) (policy : r.policy = .strict) :
    (∀ e, m.result = some (.error (.cache e)) ↔ r.lookUp id s = .error e ∨
      r.lookUp id s = .ok none ∧ ∃ u, bare.result = some (.ok u) ∧ r.putIn s u = .error e) ∧
    ((∀ e, m.result ≠ some (.error (.cache e))) → m.result = bare.result) := by
  cases outage with
  | cut e _ fails result =>
    rw [result, fails]
    simp
  | refused e goesOn without result =>
    rw [result, without, goesOn policy]
    simp
  | found u goesOn without result =>
    rw [result, without, goesOn policy]
    cases put : r.putIn s u with
    | ok _ => simp [outcome, put]
    | error e => simp [outcome, onCacheError, policy, Except.map, put]

/-- What is put into the cache, under either policy. -/
theorem puts (outage : Outage r id s bare m) :
    ∃ before closing, m.events = before ++ closing ∧ Barren before ∧
      (closing = [] ∨ ∃ u x, closing =
        [.answered (.store (.userById id)) (.ok u), .answered (.cache (.set u r.cacheTtl)) x]) := by
  cases outage with
  | cut e _ fails result events =>
    have nothing : Barren [] := ⟨fun _ _ mem => (nomatch mem), fun _ _ _ mem => (nomatch mem)⟩
    exact ⟨_, [], events.trans (List.append_nil _).symm, nothing.lookedUp _, .inl rfl⟩
  | refused e goesOn without result events fruitless =>
    exact ⟨_, [], events.trans (List.append_nil _).symm, fruitless.barren.lookedUp _, .inl rfl⟩
  | found u goesOn without result events read =>
    obtain ⟨before, told, fruitless⟩ := read
    refine ⟨.answered (.cache (.get id)) (r.lookUp id s) :: before, _, ?_, fruitless.barren.lookedUp _,
      .inr ⟨u, r.putIn s u, rfl⟩⟩
    rw [events, told]
    simp

end Outage

/-- **A failing cache is invisible under the one policy and exactly visible under the other.** Take a cache
that knows no user, whatever else it does, and storage that does anything at all. -/
theorem failing_cache (r : Resolver) (cached : r.cached = true) (id : Int64) (s : Setting)
    (unknown : ∀ u, r.lookUp id s ≠ .ok (some u)) :
    let m := (r.resolve id).meet s
    let bare := (r.uncached.resolve id).meet s
    -- A resolution comes to a result, and so it does without a cache.
    ((∃ x, m.result = some x) ∧ ∃ x, bare.result = some x) ∧
    -- If the cache is passed over, the result is the same, and so are the calls of storage.
    (r.policy = .degrade →
      m.result = bare.result ∧ (∀ e, m.result ≠ some (.error (.cache e))) ∧
        m.events.filter Event.isOfStorage = bare.events.filter Event.isOfStorage) ∧
    -- Otherwise, the cache fails the resolution where it fails itself: when the user is looked up, and
    -- storage is not called then, or when a user that has been read is put in. Nothing else changes the
    -- result.
    (r.policy = .strict →
      (∀ e, m.result = some (.error (.cache e)) ↔ r.lookUp id s = .error e ∨
        r.lookUp id s = .ok none ∧ ∃ u, bare.result = some (.ok u) ∧ r.putIn s u = .error e) ∧
      (∀ e, r.lookUp id s = .error e → m.events.filter Event.isOfStorage = []) ∧
      (r.lookUp id s = .ok none →
        m.events.filter Event.isOfStorage = bare.events.filter Event.isOfStorage) ∧
      ((∀ e, m.result ≠ some (.error (.cache e))) → m.result = bare.result)) ∧
    -- A user is put into the cache right after it has been read, once, and nothing else is.
    ∃ before closing, m.events = before ++ closing ∧ Barren before ∧
      (closing = [] ∨ ∃ u x, closing =
        [.answered (.store (.userById id)) (.ok u), .answered (.cache (.set u r.cacheTtl)) x]) := by
  have goes := outage cached unknown
  obtain ⟨x, -, loaded, -⟩ := r.attempt_meet id s pauses
  have ends := (r.uncached_meet id s).1.trans (congrArg (Option.map (Except.mapError Error.store)) loaded)
  refine ⟨goes.results ⟨_, ends⟩, fun policy => ?_, fun policy => ?_, goes.puts⟩
  · obtain ⟨same, others⟩ := goes.degrade policy
    exact ⟨same, others, goes.storage fun strict => by cases policy.symm.trans strict⟩
  · obtain ⟨failures, same⟩ := goes.strict policy
    refine ⟨failures, fun e fails => ?_, fun misses => goes.storage fun _ => misses, same⟩
    cases goes with
    | cut e _ _ _ events => rw [events]; rfl
    | refused _ goesOn => cases (goesOn policy).symm.trans fails
    | found _ goesOn => cases (goesOn policy).symm.trans fails

/-- A cache that never answers, and storage that answers its second call: one resolver reads the user, and
the other one does not even ask storage. -/
theorem failing_cache_silent :
    let r : Resolver := { Resolver.plain with cached := true }
    let strict : Resolver := { r with policy := .strict }
    let u : User := ⟨1, "ada", "ada@example.com", ⟨1, "user", "", 1⟩, true, default⟩
    let s : Setting := { (default : Setting) with
      storage := fun
        | 1, .userById _ => .answer ⟨0⟩ (.ok u)
        | _, _ => .silence }
    ((r.cached = true ∧ ∀ v, r.lookUp 1 s ≠ .ok (some v)) ∧ ((r.resolve 1).meet s).result = some (.ok u)) ∧
      (strict.cached = true ∧ ∀ v, strict.lookUp 1 s ≠ .ok (some v)) ∧
        ((strict.resolve 1).meet s).result = some (.error (.cache (.timeout r.cacheTimeout))) := by
  intro r strict u s
  have silent : ∀ v, r.lookUp 1 s ≠ .ok (some v) := fun v answered => by cases answered
  have silent' : ∀ v, strict.lookUp 1 s ≠ .ok (some v) := silent
  obtain ⟨-, degrade, -⟩ := failing_cache r rfl 1 s silent
  obtain ⟨-, -, fails, -⟩ := failing_cache strict rfl 1 s silent'
  exact ⟨⟨⟨rfl, silent⟩, (degrade rfl).1.trans rfl⟩, ⟨rfl, silent'⟩, ((fails rfl).1 _).mpr (.inl rfl)⟩

end Resolver

end Gatehouse
