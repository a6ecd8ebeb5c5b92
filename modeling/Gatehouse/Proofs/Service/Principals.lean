import Gatehouse.Proofs.Job.Premises
import Gatehouse.Proofs.Resolver.Identity
import Gatehouse.Proofs.Service.Enrolment

/-!
A principal is nobody else than the one whom a token is for.

Requests share a store and a cache. Storage answers a user under the user's own id, requests put into the
cache nobody but users that storage has answered, and entries stand under the key of their user's id. So the
cache knows under an id only what storage has held under it.

* `answer_putsRead`: what requests put into the cache.
* `Truthful`: what is then true at every point of a run. `Truthful.told_step` is one more thing that a
  request is told, `Truthful.turned` one change of what is shared, `course_truthful` any number of them.
* `principals_own`: what that means for principals, for entries, and for a user who looks up itself.
-/

namespace Gatehouse.Service

open Http (Request Response)
open Store (Memory)

/-! ### What requests put into the cache -/

namespace Attempt

variable {α β ε : Type} {calls : History → Effect → Prop}

/-- Whatever an attempt has been told, it makes only calls that are permitted then. -/
def Always (calls : History → Effect → Prop) (x : Attempt α) : Prop :=
  ∀ h, x.run.Abides calls (fun _ _ => True) h

theorem Always.bind {x : Attempt α} {f : α → Attempt β} (first : x.Always calls)
    (next : ∀ a, (f a).Always calls) : (x >>= f).Always calls := by
  intro h
  rw [run_bind]
  refine (first h).bind fun h r _ => ?_
  cases r with
  | ok a => exact next a h
  | error e => trivial

theorem Always.ofFallible {problem : ε → Problem} {j : Job (Except ε α)}
    (always : ∀ h, j.Abides calls (fun _ _ => True) h) : (Attempt.ofFallible problem j).Always calls :=
  fun h => (always h).bind fun _ _ _ => trivial

/-- An attempt that calls storage alone makes permitted calls only, if all calls of storage are. -/
theorem Always.of_only (stores : ∀ h c, calls h (.store c)) {x : Attempt α}
    (only : x.run.Only Job.OfStorage) : x.Always calls := by
  refine fun h => (only.abides h).mono (fun h e storage => ?_) fun _ _ ended => ended
  cases e with
  | store c => exact stores h c
  | cache c => exact storage.elim

end Attempt

open Attempt (Always only_bind only_ofFallible only_store)

theorem register_ofStorage (s : Service) (draws : Draws) (r : Request) :
    (s.register draws r).run.Only Job.OfStorage := by
  refine only_bind (payload_idle _ r).only fun p => only_bind (keep_idle _).only fun _ =>
    only_bind (only_ofFallible fun now => ?_) fun _ => trivial
  dsimp only
  split
  · trivial
  · refine ⟨trivial, fun x => ?_⟩
    cases x <;> trivial

theorem logIn_ofStorage (s : Service) (r : Request) : (s.logIn r).run.Only Job.OfStorage := by
  refine only_bind (payload_idle _ r).only fun p => only_bind (keep_idle _).only fun _ =>
    only_bind (only_ofFallible ⟨trivial, fun _ => trivial⟩) fun c => ?_
  split
  · exact only_bind (fun _ => trivial) fun _ => trivial
  · trivial

theorem activate_ofStorage (segment : List Char) : (activate segment).run.Only Job.OfStorage := by
  refine only_bind (segmentText_idle segment).only fun text =>
    only_bind (only_ofFallible fun now => ⟨trivial, fun x => ?_⟩) fun _ => trivial
  match x with
  | .ok _ => trivial
  | .error e => cases e <;> trivial

/-- **Whatever a request is for**, it makes permitted calls only, if all calls of storage are permitted and
all that the resolution of a user makes. -/
theorem perform_always {calls : History → Effect → Prop} (s : Service)
    (stores : ∀ h c, calls h (.store c))
    (resolves : ∀ id h, (s.resolver.resolve id).Abides calls (fun _ _ => True) h)
    (draws : Draws) (r : Request) (a : Action) : (s.perform draws r a).Always calls := by
  have storage {α : Type} {x : Attempt α} (only : x.run.Only Job.OfStorage) : x.Always calls :=
    .of_only stores only
  have idle {α : Type} {x : Attempt α} (idle : x.Idle) : x.Always calls := storage idle.only
  have made {c : Store.Call} {f : c.Answer → Response} :
      (do let a ← Attempt.store c; return f a : Attempt Response).Always calls :=
    storage (only_bind (only_store trivial) fun _ => trivial)
  have forUser {f : User → Attempt Response} (next : ∀ u, (f u).Always calls) :
      (s.principal r >>= f).Always calls := by
    refine .bind ?_ next
    exact .bind (storage trivial) fun token => .bind (storage fun _ => trivial) fun now =>
      .bind (storage trivial) fun c => .ofFallible (resolves c.sub)
  cases a with
  | health => exact storage trivial
  | register => exact storage (register_ofStorage s draws r)
  | logIn => exact storage (logIn_ofStorage s r)
  | activate segment => exact storage (activate_ofStorage segment)
  | showUser segment =>
    refine forUser fun u => .bind (idle (segmentId_idle segment)) fun id => ?_
    split
    · exact storage trivial
    · exact .bind (.ofFallible (resolves id)) fun u => storage trivial
  | follow segment => exact forUser fun u => .bind (idle (segmentId_idle segment)) fun id => made
  | unfollow segment => exact forUser fun u => .bind (idle (segmentId_idle segment)) fun id => made
  | createPost =>
    exact forUser fun u => .bind (idle (payload_idle _ r)) fun p => .bind (idle (keep_idle _)) fun _ => made
  | showPost segment => exact forUser fun _ => .bind (idle (segmentId_idle segment)) fun id => made
  | editPost segment =>
    exact forUser fun u => .bind (idle (segmentId_idle segment)) fun id =>
      .bind (idle (payload_idle _ r)) fun patch => .bind (storage (ownPost_only u id _ trivial trivial)) fun _ =>
      .bind (idle (keep_idle _)) fun _ => made
  | deletePost segment =>
    exact forUser fun u => .bind (idle (segmentId_idle segment)) fun id =>
      .bind (storage (ownPost_only u id _ trivial trivial)) fun _ => made
  | showDocument =>
    refine storage ?_
    show (s.showDocument r).run.Only _
    unfold showDocument
    split <;> trivial

/-- **Requests put nobody into the cache but users that storage has answered.** -/
theorem answer_putsRead (s : Service) (draws : Draws) (r : Request) (h : History) :
    (s.answer draws r).Abides PutsRead (fun _ _ => True) h := by
  rcases s.answer_cases draws r with ⟨status, -, none⟩ | ⟨a, -, acts⟩
  · rw [none]
    trivial
  · rw [acts]
    refine (perform_always s (fun _ _ => trivial) (fun id h => ?_) draws r a h).bind fun h x _ => ?_
    · exact (s.resolver.resolve_abides id h).mono (fun _ _ puts => puts) fun _ _ _ => trivial
    · cases x <;> trivial

/-! ### What is true at every point of a run -/

section SideBySide

variable {ι : Type} [DecidableEq ι] {past : List (Pool Premises ι Response)} {σ : Pool Premises ι Response}
  {id : Int64} {u : User}

/-- Storage has held a user under an id, in one of the pools of a run. -/
def HeldIn (pools : List (Pool Premises ι Response)) (id : Int64) (u : User) : Prop :=
  ∃ σ ∈ pools, σ.shared.store.user? id = some u

/-- What is true when a run has come to a pool: users are stored under their own ids, nobody has been told of
a user under another id, or of one who was not stored, the same is true of what is in the cache, and
requests put into it only what they have been told. -/
structure Truthful (past : List (Pool Premises ι Response)) (σ : Pool Premises ι Response) : Prop where
  own : σ.shared.store.OwnIds
  told : ∀ i id u, Identified id u (σ.past i) → u.id = id ∧ HeldIn (σ :: past) id u
  entry : ∀ k e, (k, e) ∈ σ.shared.cache.entries → ∃ u, k = Cache.key u.id ∧
    e.text = User.shape.encode u ∧ HeldIn (σ :: past) u.id u
  job : ∀ i, (σ.job i).Abides PutsRead (fun _ _ => True) (σ.past i)

omit [DecidableEq ι] in
theorem HeldIn.later {pools : List (Pool Premises ι Response)} (held : HeldIn pools id u)
    (σ : Pool Premises ι Response) : HeldIn (σ :: pools) id u := by
  obtain ⟨σ', mem, stored⟩ := held
  exact ⟨σ', .tail _ mem, stored⟩

omit [DecidableEq ι] in
theorem truthful_start {jobs : ι → Job Response} {p : Premises} (own : p.store.OwnIds)
    (empty : p.cache = .empty) (puts : ∀ i h, (jobs i).Abides PutsRead (fun _ _ => True) h) :
    Truthful [] (.start jobs p) where
  own := own
  told i id u identified := by
    rcases identified with told | told <;> cases told
  entry k e mem := by
    have mem : (k, e) ∈ p.cache.entries := mem
    rw [empty] at mem
    cases mem
  job i := puts i []

omit [DecidableEq ι] in
/-- A user that the cache knows under an id has this id, and was stored under it. -/
theorem Truthful.remembered (truthful : Truthful past σ) {e : Cache.Entry}
    (mem : (Cache.key id, e) ∈ σ.shared.cache.entries) :
    ∃ u, Cache.Memory.readUser e.text = .ok (some u) ∧ u.id = id ∧ HeldIn (σ :: past) id u := by
  obtain ⟨u, key, text, held⟩ := truthful.entry _ e mem
  obtain rfl := Cache.key_injective key
  exact ⟨u, by rw [text, Cache.Memory.readUser, User.decode_encode], rfl, held⟩

omit [DecidableEq ι] in
/-- Of whom a request is told now, that user has the id, and was stored under it. -/
theorem Truthful.identified (truthful : Truthful past σ) {x : Event} {p : Premises}
    (tells : σ.shared.Tells x p) (identified : Identified id u [x]) :
    u.id = id ∧ HeldIn (σ :: past) id u := by
  rcases identified with told | told
  · obtain rfl := List.mem_singleton.mp told
    have stored := tells.stored_eq
    exact ⟨truthful.own id u stored, σ, .head _, stored⟩
  · obtain rfl := List.mem_singleton.mp told
    obtain ⟨e, mem, -, text⟩ := Cache.Memory.get_eq_some tells.looked_eq
    obtain ⟨u', read, same, held⟩ := truthful.remembered mem
    obtain rfl : u' = u := by simpa using read.symm.trans text
    exact ⟨same, held⟩

theorem identified_concat {h : History} {x : Event} (identified : Identified id u (h ++ [x])) :
    Identified id u h ∨ Identified id u [x] := by
  rcases identified with told | told
  · exact (List.mem_append.mp told).imp .inl .inl
  · exact (List.mem_append.mp told).imp .inr .inr

/-- **One more thing that a request is told.** -/
theorem Truthful.told_step (truthful : Truthful past σ) {σ' : Pool Premises ι Response}
    (step : Pool.Step Premises.Tells σ σ') : Truthful (σ :: past) σ' := by
  obtain @⟨i, x, j, p, move, tells⟩ := step
  have here : ∀ id u, Identified id u (σ.past i ++ [x]) → u.id = id ∧ HeldIn (σ :: past) id u := by
    intro id u identified
    rcases identified_concat identified with before | now
    · exact truthful.told i id u before
    · exact truthful.identified tells now
  refine ⟨tells.own truthful.own, fun i' id u identified => ?_, fun k e mem => ?_, fun i' => ?_⟩
  · obtain ⟨same, held⟩ : u.id = id ∧ HeldIn (σ :: past) id u := by
      by_cases same : i' = i
      · subst same
        exact here id u (by simpa [Pool.tell] using identified)
      · exact truthful.told i' id u (by simpa [Pool.tell, same] using identified)
    exact ⟨same, held.later _⟩
  · rcases tells.entries mem with mem | ⟨u, ttl, r, rfl, key, text⟩
    · obtain ⟨u, key, text, held⟩ := truthful.entry k e mem
      exact ⟨u, key, text, held.later _⟩
    · -- Whoever is put in has been read before, under the user's own id.
      obtain ⟨id, read⟩ := (truthful.job i).permits move
      obtain ⟨same, held⟩ := truthful.told i id u (.inl read)
      exact ⟨u, key, text, same ▸ held.later _⟩
  · by_cases same : i' = i
    · subst same
      simpa [Pool.tell] using (truthful.job i').moves move
    · simpa [Pool.tell, same] using truthful.job i'

omit [DecidableEq ι] in
/-- **One change of what is shared.** -/
theorem Truthful.turned (truthful : Truthful past σ) {p : Premises} (turns : σ.shared.Turns p) :
    Truthful (σ :: past) { σ with shared := p } where
  own := turns.own truthful.own
  told i id u identified := by
    obtain ⟨same, held⟩ := truthful.told i id u identified
    exact ⟨same, held.later _⟩
  entry k e mem := by
    obtain ⟨u, key, text, held⟩ := truthful.entry k e (turns.entries mem)
    exact ⟨u, key, text, held.later _⟩
  job := truthful.job

theorem course_truthful {jobs : ι → Job Response} {p : Premises} (own : p.store.OwnIds)
    (empty : p.cache = .empty) (puts : ∀ i h, (jobs i).Abides PutsRead (fun _ _ => True) h)
    (course : Course (.start jobs p) past σ) : Truthful past σ := by
  induction course with
  | start => exact truthful_start own empty puts
  | told _ step ih => exact ih.told_step step
  | turned _ turns ih => exact ih.turned turns

end SideBySide

/-! ### Principals -/

/-- **A principal is the user that the resolution of an accepted token's subject has come to.** -/
theorem PrincipalAfter.resolved {s : Service} {r : Request} {h : History} {u : User}
    (principal : PrincipalAfter s r h u) :
    ∃ now c told, .read now ∈ h ∧ Presents s r now c ∧ told <:+: h ∧
      Job.After (s.resolver.resolve c.sub) told (.done (.ok u)) := by
  obtain ⟨told, pre, after⟩ := principal
  rw [principal_run] at after
  cases field : Credential.bearer r.headers with
  | error e =>
    rw [field] at after
    cases after.of_done
  | ok token =>
    rw [field] at after
    rcases after.head with ⟨ended, -⟩ | ⟨x, j, rest, rfl, move, after⟩
    · cases ended
    cases move with
    | read _ now =>
      dsimp only at after
      cases checked : s.authority.validate token (Int64.ofInt now.secs) with
      | error e =>
        rw [checked] at after
        cases after.of_done
      | ok c =>
        rw [checked] at after
        obtain ⟨h₁, h₂, x, rfl, resolved, ended⟩ := after.bind_done
        have found : x = .ok u := by
          have same := Job.done.inj ended.of_done
          cases x with
          | error e => cases same
          | ok u' => cases same; rfl
        subst found
        refine ⟨now, c, h₁, pre.subset (.head _), ⟨token, Credential.bearer_eq_ok_iff.mp field, checked⟩,
          ?_, resolved⟩
        exact List.IsInfix.trans ⟨[.read now], h₂, by simp⟩ pre.isInfix

/-- Who is shown by an id is the principal at hand if it has the id, and is resolved else. -/
theorem showUser_of_names (s : Service) {segment : List Char} {id : Int64} (names : Names segment id)
    (viewer : User) (deadline : Option Nat) (w : World) :
    (viewer.id = id → (s.showUser viewer segment).respond.run deadline w =
      (some (.json 200 (User.shape.toJson viewer)), w)) ∧
    (viewer.id ≠ id → ∀ u w', (s.resolver.resolve id).run deadline w = (some (.ok u), w') →
      (s.showUser viewer segment).respond.run deadline w =
        (some (.json 200 (User.shape.toJson u)), w')) := by
  rw [showUser, Attempt.run_respond_bind_ok _ _ (segmentId_of_names names)]
  constructor
  · intro same
    rw [if_pos same.symm]
    rfl
  · intro other u w' resolved
    rw [if_neg fun same => other same.symm, Attempt.run_respond_bind, Attempt.run_ofFallible, resolved]
    rfl

section SideBySide

variable {ι : Type} [DecidableEq ι] {draws : ι → Draws} {requests : ι → Request} {store : Memory} {now : Nat}
  {past : List (Pool Premises ι Response)} {σ : Pool Premises ι Response}

/-- **A principal is never someone else.** Take any requests to a service that share a store and a cache, in
any interleaving with each other and with all that others do to the store, whatever befalls their calls. -/
theorem principals_own (s : Service) (draws : ι → Draws) (requests : ι → Request) (own : store.OwnIds)
    (course : Course (.start (fun i => s.answer (draws i) (requests i)) ⟨now, store, .empty⟩) past σ) :
    -- Whenever what a request is told resolves an id, it comes to a user with this id, whom storage has held
    -- under it.
    (∀ i h id u, h <:+: σ.past i → Job.After (s.resolver.resolve id) h (.done (.ok u)) →
      u.id = id ∧ HeldIn (σ :: past) id u) ∧
    -- So the principal of a request is the one whom its token is for.
    (∀ i u, PrincipalAfter s (requests i) (σ.past i) u →
      ∃ now c, .read now ∈ σ.past i ∧ Presents s (requests i) now c ∧ u.id = c.sub) ∧
    -- What the cache knows under an id can be read, and is a user with this id, whom storage has held.
    (∀ id e, σ.shared.cache.find? (Cache.key id) = some e →
      ∃ u, Cache.Memory.readUser e.text = .ok (some u) ∧ u.id = id ∧ HeldIn (σ :: past) id u) ∧
    -- Let nothing befall any call from now on. Whoever looks up itself is shown as it has been resolved for the
    -- request. It would be resolved alike once more, and is shown alike to anybody else.
    ∀ (w : World) (deadline : Option Nat) (draws : Draws) (r : Request) (segment : List Char)
      (c : Token.Claims) (u : User) (w' : World),
      w.backend.script.Calm → w.backend.store = σ.shared.store → w.backend.cache = σ.shared.cache →
      aim r = .action (.showUser segment) → Names segment c.sub → Presents s r w.today c →
      (s.resolver.resolve c.sub).run deadline w = (some (.ok u), w') →
      (s.answer draws r).run deadline w = (some (.json 200 (User.shape.toJson u)), w') ∧
        ∃ w'', (s.resolver.resolve c.sub).run deadline w' = (some (.ok u), w'') ∧
          ∀ viewer, viewer.id ≠ c.sub → (s.showUser viewer segment).respond.run deadline w' =
            (some (.json 200 (User.shape.toJson u)), w'') := by
  have truthful := course_truthful own rfl (fun i => answer_putsRead s (draws i) (requests i)) course
  have resolved : ∀ i h id u, h <:+: σ.past i → Job.After (s.resolver.resolve id) h (.done (.ok u)) →
      u.id = id ∧ HeldIn (σ :: past) id u := by
    intro i h id u within after
    refine truthful.told i id u ?_
    exact (s.resolver.identified_of_after id after).imp (within.subset ·) (within.subset ·)
  refine ⟨resolved, ?_, fun id e found => truthful.remembered (Table.mem_of_find? found), ?_⟩
  · intro i u principal
    obtain ⟨now, c, told, read, presents, within, after⟩ := principal.resolved
    exact ⟨now, c, read, presents, (resolved i told c.sub u within after).1⟩
  · intro w deadline draws r segment c u w' calm sameStore sameCache aimed names presents found
    have faithful : w.backend.cache.Faithful := by
      intro k e mem
      obtain ⟨u, key, text, -⟩ := truthful.entry k e (sameCache ▸ mem)
      exact ⟨u, key, text⟩
    obtain ⟨same, w'', again⟩ :=
      Resolver.resolve_again deadline calm faithful (sameStore ▸ truthful.own) found
    refine ⟨?_, w'', again, fun viewer other => ?_⟩
    · obtain ⟨k, starts, goes⟩ := answer_of_presents aimed (.showUser segment) draws presents
      rw [starts, Job.run, goes, Job.run_bind, found]
      exact (showUser_of_names s names u deadline w').1 same
    · exact (showUser_of_names s names viewer deadline w').2 other u w'' again

/-- A user that was not in the cache has been looked up and put in, and is stored anew. -/
theorem principals_own_cached :
    let auth : Token.Authority := ⟨[1], "agora", Duration.ofSecs 60, by decide⟩
    let s : Service := ⟨auth, ⟨true, ⟨3⟩, ⟨2⟩, ⟨10⟩, .degrade⟩, ⟨"operator", "secret"⟩, defaultInvitationTtl, ""⟩
    let r : Request := ⟨"GET", "/v1/users/1".toList, [("authorization",
      Json.ascii "Bearer " ++ Json.ascii (auth.generate ⟨1, 0, 0, 60, "agora", "agora"⟩))], [], none⟩
    let store := (Memory.seeded.insertUser .epoch 1 "ada" "user" "" true).2
    store.OwnIds ∧ ∃ past, ∃ σ : Pool Premises Unit Response,
      Course (.start (fun _ => s.answer default r) ⟨0, store, .empty⟩) past σ ∧
      ∃ e, σ.shared.cache.find? (Cache.key 1) = some e ∧
        ∃ u, Cache.Memory.readUser e.text = .ok (some u) ∧ u.id = 1 ∧ HeldIn (σ :: past) 1 u ∧
          σ.shared.store.user? 1 ≠ some u := by
  intro auth s r store
  have own : store.OwnIds := (Memory.run_sound [(.epoch, .insertUser 1 "ada" "user" "" true)]).ownIds
  let ada : User :=
    ⟨1, "ada", "ada@agora.test", ⟨1, "user", "A user can create posts and comments", 1⟩, true, .epoch⟩
  have presents : Presents s r default ⟨1, 0, 0, 60, "agora", "agora"⟩ := presents_generate rfl (by rfl)
  obtain ⟨k, starts, goes⟩ := answer_of_presents rfl (Handles.showUser ['1']) default presents
  obtain ⟨limit₁, k₁, limit₂, k₂, limit₃, k₃, looks, reads, puts⟩ : ∃ limit₁ k₁ limit₂ k₂ limit₃ k₃,
      k default = .call (.cache (.get 1)) limit₁ k₁ ∧
      k₁ (.ok none) = .call (.store (.userById 1)) limit₂ k₂ ∧
      k₂ (.ok ada) = .call (.cache (.set ada s.resolver.cacheTtl)) limit₃ k₃ :=
    ⟨_, _, _, _, _, _, goes.trans rfl, rfl, rfl⟩
  have begun : Course (.start (fun _ : Unit => s.answer default r) ⟨0, store, .empty⟩) [] _ := .start
  have course₁ := begun.tells ((Pool.start_job _ _ ()).trans starts) (.read k default)
    (Premises.Tells.read default)
  have course₂ := course₁.tells ((Pool.tell_job_self ..).trans looks) (.answered ..) (.cached (.get 1))
  have course₃ := course₂.tells ((Pool.tell_job_self ..).trans reads) (.answered ..)
    (.stored .epoch (.userById 1))
  have course₄ := course₃.tells ((Pool.tell_job_self ..).trans puts) (.answered ..)
    (.cached (.set ada s.resolver.cacheTtl))
  have course₅ := course₄.turned (.deed .epoch (.insertUser 1 "bob" "user" "" true))
  obtain ⟨past, σ, course, cached, stored⟩ : ∃ past, ∃ σ : Pool Premises Unit Response,
      Course (.start (fun _ => s.answer default r) ⟨0, store, .empty⟩) past σ ∧
        σ.shared.cache.find? (Cache.key 1) = some ⟨User.shape.encode ada, 3⟩ ∧
        σ.shared.store.user? 1 = some { ada with username := "bob", email := "bob@agora.test" } :=
    ⟨_, _, course₅, (Table.find?_insert ..).trans (if_pos rfl), rfl⟩
  obtain ⟨u, read, same, held⟩ :=
    (principals_own s (fun _ => default) (fun _ => r) own course).2.2.1 1 _ cached
  have found : ada = u := by simpa [Cache.Memory.readUser, User.decode_encode] using read
  refine ⟨own, past, σ, course, _, cached, u, read, same, held, ?_⟩
  rw [stored, ← found]
  decide

end SideBySide

end Gatehouse.Service
