import Gatehouse.Proofs.Service.Undisturbed

/-!
How posts are written and changed in a service that nothing comes in the way of.

* `Gate.handle_advances`: a request can be answered while all others stand still.
* `creation_of_gives`: without a request for a new post, no id is given out.
* `SentBy`: a request bears the token of a user who is stored.
* `SentBy.creates`: who sends what the rules for new posts allow has written a post.
* `SentBy.edits`: who sends what the rules for changes allow has changed a post of its own.
* `SentBy.next`: who has done so can send another request.
-/

namespace Gatehouse.Service

open Http (Request Response)

/-! ### Calls of storage in a calm world -/

section Calm

variable {r : Request} {w : World} (deadline : Option Nat) (calm : w.backend.script.Calm)

include calm

theorem Attempt.run_store_calm (c : Store.Call) :
    (Attempt.store c).run.run deadline w =
      (some ((w.answer (.store c)).1.mapError fun e => .problem (.ofStore e)), (w.answer (.store c)).2) := by
  rw [Attempt.store, Attempt.run_ofFallible, Job.store, Job.run_call_calm deadline calm]
  rfl

/-- A call that succeeds is all that comes before what is made of its result. -/
theorem Attempt.run_respond_store_calm {c : Store.Call} {a : c.Answer}
    (answered : (w.answer (.store c)).1 = .ok a) (f : c.Answer → Attempt Response) :
    (Attempt.respond (Attempt.store c >>= f)).run deadline w =
      (Attempt.respond (f a)).run deadline (w.answer (.store c)).2 := by
  rw [Attempt.run_respond_bind, Attempt.run_store_calm deadline calm, answered]
  rfl

/-- Nobody but the store is asked about a post of one's own. -/
theorem run_ownPost_calm {u : User} {id : Int64} {p : Post} (stored : w.backend.store.posts.find? id = some p)
    (owner : u.id = p.userId) (role : String) :
    (ownPost u id role).run.run deadline w = (some (.ok ()), (w.answer (.store (.postById id))).2) := by
  have answered : (w.answer (.store (.postById id))).1 = .ok p := by
    show (w.backend.store.postById id).1 = _
    rw [Store.Memory.postById, stored]
    rfl
  rw [ownPost, Attempt.run_bind, Job.run_bind, Attempt.run_store_calm deadline calm, answered]
  simp only [Except.mapError, Authorization.authorize, if_pos owner]
  rfl

/-- **A post is written** that keeps the rules. -/
theorem run_createPost_calm {u : User} {p : NewPost} (carries : Carries NewPost.shape r p)
    (kept : Form.newPost p.title p.content = .ok ()) :
    ∃ x w', (createPost u r).respond.run deadline w = (some x, w') ∧ x.status = 201 ∧
      w'.backend.store = (w.backend.store.createPost w.today ⟨u.id, p.title, p.content, p.tags⟩).2 := by
  rw [createPost, Attempt.run_respond_bind_ok _ _ carries.payload,
    Attempt.run_respond_bind_ok _ _ (keep_ok kept), Attempt.run_respond_store_calm deadline calm rfl]
  exact ⟨_, _, rfl, rfl, rfl⟩

/-- **A post is changed by its owner**, whatever the change puts there, if that is not too long. -/
theorem run_editPost_calm {u : User} {segment : List Char} {id : Int64} {patch : Post.Patch} {p : Post}
    (names : Names segment id) (carries : Carries patchShape r patch)
    (stored : w.backend.store.posts.find? id = some p) (owner : u.id = p.userId)
    (kept : Form.postPatch patch.title patch.content = .ok ()) :
    ∃ x w', (editPost u segment r).respond.run deadline w = (some x, w') ∧ x.status = 200 ∧
      w'.backend.store = (w.backend.store.updatePost w.today id patch).2 := by
  have same : (w.answer (.store (.postById id))).2.backend.store = w.backend.store :=
    w.backend.store.perform_of_reads w.today (c := .postById id) trivial
  have answered : ((w.answer (.store (.postById id))).2.answer (.store (.updatePost id patch))).1 =
      .ok (p.amend patch w.today) := by
    show ((w.answer (.store (.postById id))).2.backend.store.updatePost w.today id patch).1 = _
    rw [same, Store.Memory.updatePost, stored]
  rw [editPost, Attempt.run_respond_bind_ok _ _ (segmentId_of_names names),
    Attempt.run_respond_bind_ok _ _ carries.payload, Attempt.run_respond_bind,
    run_ownPost_calm deadline calm stored owner]
  dsimp only
  rw [Attempt.run_respond_bind_ok _ _ (keep_ok kept),
    Attempt.run_respond_store_calm deadline (World.calm_answer calm _) answered]
  refine ⟨_, _, rfl, rfl, ?_⟩
  show ((w.answer (.store (.postById id))).2.backend.store.updatePost w.today id patch).2 = _
  rw [same]

end Calm

/-! ### Requests among others -/

section Among

variable {ι : Type} [DecidableEq ι] {σ : Pool Store.Memory ι Response} {i : ι}

/-- What a gate does with a request is done by steps that its job can take among others. -/
theorem Gate.handle_advances (g : Gate) (draws : Draws) (r : Request)
    (stands : σ.job i = g.service.answer draws r) (shared : σ.shared = g.store) :
    ∃ σ', Pool.Advances Store.Memory.Tells (· = i) σ σ' ∧ (g.handle draws r).2.store = σ'.shared := by
  rcases g.handle_cases draws r with ⟨wait, limited⟩ | admitted
  · rw [limited]
    exact ⟨σ, .refl _ σ, shared.symm⟩
  · obtain ⟨σ', advances, -, shown⟩ := Job.run_reaches Store.Memory.shares
      (some (g.world.clock.timer patience)) _ g.world stands shared.symm
    rw [admitted]
    exact ⟨σ', advances, shown⟩

/-- An id is given out to a request for a new post. -/
theorem creation_of_gives {s : Service} {draws : ι → Draws} {requests : ι → Request} {store : Store.Memory}
    (run : Pool.Runs Store.Memory.Tells (.start (fun i => s.answer (draws i) (requests i)) store) σ)
    {id : Int64} (gives : σ.Gives id) : ∃ i, aim (requests i) = .action .createPost := by
  obtain ⟨i, d, p, told, -⟩ := gives
  obtain ⟨a, aimed, makes⟩ := (answer_makes s (draws i) (requests i)).of_told (run.after i) told
  cases makes with
  | looksUp looks => exact looks.elim
  | createPost => exact ⟨i, aimed⟩

end Among

/-! ### Requests of users who are stored -/

/-- A request bears a token for a user who is stored, and nothing comes in its way. -/
structure SentBy (g : Gate) (r : Request) (id : Int64) : Prop where
  undisturbed : g.Undisturbed
  faithful : g.Faithful
  presents : ∃ c, Presents g.service r g.world.today c ∧ c.sub = id
  stored : ∃ a, g.store.accounts.find? id = some a ∧ a.user.id = id

namespace SentBy

variable {g : Gate} {r : Request} {id : Int64} (sent : SentBy g r id) (draws : Draws)

include sent

/-- **A protected request is answered with what its action comes to** over the data as they are. -/
theorem acts {a : Action} {body : User → Attempt Response} (aimed : aim r = .action a)
    (handled : Handles g.service r a body) {P : Response → Store.Memory → Prop}
    (runs : ∀ u w, u.id = id → w.backend.store = g.store → w.backend.script.Calm →
      ∃ x w', (body u).respond.run (some (g.world.clock.timer patience)) w = (some x, w') ∧
        P x w'.backend.store) :
    ∃ x, (g.handle draws r).1 = dispatch draws g.world.today r x ∧ P x (g.handle draws r).2.store := by
  obtain ⟨c, presents, rfl⟩ := sent.presents
  obtain ⟨account, found, own⟩ := sent.stored
  obtain ⟨u, same, w, x, w', resolved, ran, handle⟩ :=
    sent.undisturbed.admits sent.faithful aimed handled presents found own
  have spares := g.service.resolver.run_resolve u.id (some (g.world.clock.timer patience)) g.world
  have continues := Job.continues_run (some (g.world.clock.timer patience))
    (g.service.resolver.resolve u.id) g.world
  rw [resolved] at spares continues
  obtain ⟨x', w'', ran', holds⟩ := runs u w same spares.store (continues.calm sent.undisturbed.calm)
  cases ran.symm.trans ran'
  rw [handle]
  exact ⟨x', rfl, holds⟩

/-- **A user writes a post** that keeps the rules. -/
theorem creates (aimed : aim r = .action .createPost) {p : NewPost} (carries : Carries NewPost.shape r p)
    (kept : Form.newPost p.title p.content = .ok ()) :
    (g.handle draws r).1.status = 201 ∧
      ∃ now, (g.handle draws r).2.store = (g.store.createPost now ⟨id, p.title, p.content, p.tags⟩).2 := by
  have written : ∃ x, (g.handle draws r).1 = dispatch draws g.world.today r x ∧ x.status = 201 ∧
      ∃ now, (g.handle draws r).2.store =
        (g.store.createPost now ⟨id, p.title, p.content, p.tags⟩).2 := by
    apply sent.acts draws aimed .createPost (P := fun x m => x.status = 201 ∧
      ∃ now, m = (g.store.createPost now ⟨id, p.title, p.content, p.tags⟩).2)
    rintro u w rfl same calm
    obtain ⟨x, w', ran, status, stored⟩ := run_createPost_calm _ calm (u := u) carries kept
    exact ⟨x, w', ran, status, w.today, same ▸ stored⟩
  obtain ⟨x, response, status, stored⟩ := written
  rw [response, Gate.status_dispatch]
  exact ⟨status, stored⟩

/-- **A user changes a post of its own**, whatever the change puts there, if that is not too long. -/
theorem edits {segment : List Char} (aimed : aim r = .action (.editPost segment)) {k : Int64}
    (names : Names segment k) {patch : Post.Patch} (carries : Carries patchShape r patch) {p : Post}
    (stored : g.store.posts.find? k = some p) (owner : p.userId = id)
    (kept : Form.postPatch patch.title patch.content = .ok ()) :
    (g.handle draws r).1.status = 200 ∧
      ∃ now, (g.handle draws r).2.store = (g.store.updatePost now k patch).2 := by
  have changed : ∃ x, (g.handle draws r).1 = dispatch draws g.world.today r x ∧ x.status = 200 ∧
      ∃ now, (g.handle draws r).2.store = (g.store.updatePost now k patch).2 := by
    apply sent.acts draws aimed (.editPost segment) (P := fun x m => x.status = 200 ∧
      ∃ now, m = (g.store.updatePost now k patch).2)
    rintro u w rfl same calm
    obtain ⟨x, w', ran, status, changed⟩ :=
      run_editPost_calm _ calm names carries (same ▸ stored) owner.symm kept
    exact ⟨x, w', ran, status, w.today, same ▸ changed⟩
  obtain ⟨x, response, status, changed⟩ := changed
  rw [response, Gate.status_dispatch]
  exact ⟨status, changed⟩

/-- Who is stored can go on after a request that changes no account, as long as the wall clock stands still. -/
theorem next {t : Instant} (still : g.world.wall = fun _ => t) (r' : Request)
    (kept : (g.handle draws r').2.store.accounts = g.store.accounts) {r'' : Request}
    (same : r''.headers = r.headers) : SentBy (g.handle draws r').2 r'' id := by
  have continues := g.handle_continues draws r'
  have service := g.handle_service draws r'
  obtain ⟨c, presents, named⟩ := sent.presents
  refine ⟨⟨Gate.handle_admission draws r' sent.undisturbed.admission, continues.calm sent.undisturbed.calm⟩,
    continues.faithful sent.faithful, ⟨c, ?_, named⟩, kept ▸ sent.stored⟩
  rw [Presents, same, service, World.today_of_still (continues.wall.trans still)]
  rw [World.today_of_still still] at presents
  exact presents

end SentBy

end Gatehouse.Service
