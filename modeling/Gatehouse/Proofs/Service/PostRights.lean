import Gatehouse.Proofs.Service.Posting
import Gatehouse.Proofs.Store.Recall

/-!
Who changes and deletes posts while requests are carried out side by side.

What allows a request to touch a post has been found out some steps before the call that does so, and anything may
happen in between. It stays true as long as the id of the post is not given out again.

* `MayTouch`: what a user may touch, by what is stored.
* `owner_waits_to_delete`, `user_writes`: what one request can do while all others stand still.
* `posts_authorized`: what has been told is still true when the call takes effect.
* `posts_authorized_exhausted`: a run in which it is not, since ids have started over.
-/

namespace Gatehouse.Service

open Http (Request Response)
open Store (Memory)

variable {s : Service}

/-- A user may touch a post, by what is stored: the user owns it, or the level of the user's role is
at least that of the role with a name. -/
def MayTouch (m : Memory) (name : String) (u : User) (p : Post) : Prop :=
  u.id = p.userId ∨ ∃ role, m.role? name = some role ∧ role.level ≤ u.role.level

section SideBySide

variable {ι : Type} [DecidableEq ι] {store : Memory} {σ : Pool Memory ι Response}

/-! ### What is still true -/

section Told

variable {r : Request} {i : ι} {name : String} {id : Int64} {jobs : ι → Job Response}

/-- Who has been cleared for a post may touch what stands in its place, if that is the same user's. -/
theorem Cleared.mayTouch {p : Post} (cleared : Cleared s r name id (σ.past i))
    (run : Pool.Runs Memory.Tells (.start jobs store) σ)
    (kept : ∀ q, .answered (.store (.postById id)) (.ok q) ∈ σ.past i → p.userId = q.userId) :
    ∃ u, PrincipalAfter s r (σ.past i) u ∧ MayTouch σ.shared name u p := by
  obtain ⟨u, q, principal, told, right⟩ := cleared
  refine ⟨u, principal, ?_⟩
  rcases right with owner | ⟨role, asked, level⟩
  · exact .inl (owner.trans (kept q told).symm)
  · exact .inr ⟨role, run.role asked, level⟩

/-- Who has been denied a post may not touch it. -/
theorem Denied.not_mayTouch (denied : Denied s r name id (σ.past i))
    (run : Pool.Runs Memory.Tells (.start jobs store) σ) :
    ∃ u p, PrincipalAfter s r (σ.past i) u ∧
      .answered (.store (.postById id)) (.ok p) ∈ σ.past i ∧ ¬ MayTouch σ.shared name u p := by
  obtain ⟨⟨u, p, role, principal, told, other, asked, level⟩, -⟩ := denied
  refine ⟨u, p, principal, told, ?_⟩
  rintro (owner | ⟨role', stored, level'⟩)
  · exact other owner
  · cases (run.role asked).symm.trans stored
    exact level level'

/-- Without a cache, a user is what storage tells at once. -/
theorem resolve_of_uncached {resolver : Resolver} (uncached : resolver.cached = false) (id : Int64)
    (u : User) :
    ∃ limit k, resolver.resolve id = .call (.store (.userById id)) limit k ∧ k (.ok u) = .done (.ok u) := by
  rw [Resolver.resolve, uncached]
  exact ⟨_, _, rfl, rfl⟩

/-- A request that presents claims acts for the user that storage has for them. -/
theorem PrincipalAfter.of_told {now : Instant} {c : Token.Claims} {u : User} {h : History}
    (uncached : s.resolver.cached = false) (presents : Presents s r now c)
    (told : [.read now, .answered (.store (.userById c.sub)) (.ok u)] <+: h) : PrincipalAfter s r h u := by
  obtain ⟨token, field, checked⟩ := presents
  obtain ⟨limit, k, asks, finds⟩ := resolve_of_uncached uncached c.sub u
  refine ⟨_, told, ?_⟩
  rw [principal_run, Credential.bearer_eq_ok_iff.mpr field]
  refine .of_moves (.read _ now) ?_
  simp only [checked, asks, Job.bind]
  refine .of_moves (.answered ..) ?_
  rw [finds]
  exact .start

/-- Nobody but the store is asked about a post of one's own. -/
theorem ownPost_of_owner {u : User} {p : Post} (owner : u.id = p.userId) (id : Int64) (role : String) :
    ∃ k, (ownPost u id role).run = .call (.store (.postById id)) none k ∧ k (.ok p) = .done (.ok ()) := by
  rw [ownPost, Attempt.run_bind]
  refine ⟨_, rfl, ?_⟩
  show (Attempt.ofFallible _ (Authorization.authorize u p.userId role) >>= _).run = _
  rw [Authorization.authorize, if_pos owner]
  rfl

/-- **An owner gets as far as the call that deletes a post**, and has been told by then who it is. Nothing has
changed. -/
theorem owner_waits_to_delete (draws : Draws) {segment : List Char} {now : Instant} {c : Token.Claims} {u : User}
    {p : Post} (uncached : s.resolver.cached = false) (aimed : aim r = .action (.deletePost segment))
    (names : Names segment id) (presents : Presents s r now c) (starts : σ.job i = s.answer draws r)
    (untold : σ.past i = []) (known : σ.shared.user? c.sub = some u)
    (stands : σ.shared.posts.find? id = some p) (owner : u.id = p.userId) :
    ∃ σ', Pool.Advances Memory.Tells (· = i) σ σ' ∧ σ'.shared = σ.shared ∧
      (∃ limit k, σ'.job i = .call (.store (.deletePost id)) limit k) ∧ PrincipalAfter s r (σ'.past i) u := by
  obtain ⟨k, reads, goes⟩ := answer_of_presents aimed (.deletePost segment) draws presents
  obtain ⟨limit, k₁, asks, finds⟩ : ∃ limit k₁, k now = .call (.store (.userById c.sub)) limit k₁ ∧
      k₁ (.ok u) = (Service.deletePost u segment).respond := by
    obtain ⟨limit, k', asks, finds⟩ := resolve_of_uncached uncached c.sub u
    rw [goes, asks]
    refine ⟨limit, _, rfl, ?_⟩
    rw [finds]
    rfl
  obtain ⟨k₂, looks, k₃, deletes⟩ : ∃ k₂, (Service.deletePost u segment).respond =
      .call (.store (.postById id)) none k₂ ∧ ∃ k₃, k₂ (.ok p) = .call (.store (.deletePost id)) none k₃ := by
    obtain ⟨k', looks, allowed⟩ := ownPost_of_owner owner id deleters
    rw [Service.deletePost, Attempt.respond_bind, segmentId_of_names names]
    show ∃ k₂, (ownPost u id deleters >>= _).respond = _ ∧ _
    rw [Attempt.respond_bind, looks]
    refine ⟨_, rfl, ?_⟩
    rw [allowed]
    exact ⟨_, rfl⟩
  have readClock := (Pool.Advances.refl (· = i) σ).told rfl (starts.trans reads) (.read k now)
    (Memory.Tells.read now)
  have foundUser := readClock.told rfl ((Pool.tell_job_self ..).trans asks) (.answered ..)
    (.of_perform now (c := .userById c.sub) (congrArg σ.shared.answer known))
  have foundPost := foundUser.told rfl ((Pool.tell_job_self ..).trans (finds.trans looks)) (.answered ..)
    (.of_perform now (c := .postById id) (congrArg σ.shared.answer stands))
  refine ⟨_, foundPost, rfl, ⟨_, _, (Pool.tell_job_self ..).trans deletes⟩, ?_⟩
  refine PrincipalAfter.of_told uncached presents ?_
  rw [Pool.tell_past_self, Pool.tell_past_self, Pool.tell_past_self, untold]
  exact List.prefix_append ..

/-- **A user can write a post** while all others stand still. -/
theorem user_writes {draws : Draws} {now : Instant} {c : Token.Claims} {a : Credentials} {p : NewPost}
    (aimed : aim r = .action .createPost) (presents : Presents s r now c)
    (starts : σ.job i = s.answer draws r) (stored : σ.shared.accounts.find? c.sub = some a)
    (own : a.user.id = c.sub) (carries : Carries NewPost.shape r p)
    (kept : Form.newPost p.title p.content = .ok ()) :
    ∃ σ' now', Pool.Advances Memory.Tells (· = i) σ σ' ∧
      σ'.shared = (σ.shared.createPost now' ⟨c.sub, p.title, p.content, p.tags⟩).2 := by
  let g : Gate := ⟨s, .everyone, ⟨.start, fun _ => now, .ofStore σ.shared⟩⟩
  have sent : SentBy g r c.sub :=
    ⟨⟨rfl, Script.calm_empty⟩, Cache.Memory.faithful_empty, ⟨c, presents, rfl⟩, ⟨a, stored, own⟩⟩
  obtain ⟨-, now', written⟩ := sent.creates draws aimed carries kept
  obtain ⟨σ', advances, left⟩ := g.handle_advances draws r starts rfl
  exact ⟨σ', now', advances, left.symm.trans written⟩

end Told

/-- A new post stands under the next id. -/
theorem find?_createPost (m : Memory) (now : Instant) (d : Post.Draft) :
    (m.createPost now d).2.posts.find? m.nextPostId =
      some ⟨m.nextPostId, d.userId, d.title, d.content, d.tags, 0, now, now⟩ :=
  Table.find?_insert_self ..

/-! ### Posts that are touched -/

/-- **Posts are changed and deleted with authority only**, however requests are interleaved: each
request is a job over the one store, its calls of the store may fail, and between any two of its
steps the others take any steps of theirs. The one exception is a run that has given out every id of
64 bits from the first free one on, after which ids start over, and the id of the post among them. -/
theorem posts_authorized (s : Service) (draws : ι → Draws) (requests : ι → Request)
    (numbered : store.Numbered)
    (run : Pool.Runs Memory.Tells (.start (fun i => s.answer (draws i) (requests i)) store) σ) :
    -- A request that is about to change a post that stands there is its owner's or an editor's.
    (∀ i id patch limit k p, σ.job i = .call (.store (.updatePost id patch)) limit k →
      σ.shared.posts.find? id = some p →
      (σ.GivesAll store.nextPostId ∧ σ.Gives id) ∨
        ∃ u, PrincipalAfter s (requests i) (σ.past i) u ∧ MayTouch σ.shared editors u p) ∧
    -- A request that is about to delete one is its owner's or a deleter's.
    (∀ i id limit k p, σ.job i = .call (.store (.deletePost id)) limit k →
      σ.shared.posts.find? id = some p →
      (σ.GivesAll store.nextPostId ∧ σ.Gives id) ∨
        ∃ u, PrincipalAfter s (requests i) (σ.past i) u ∧ MayTouch σ.shared deleters u p) ∧
    -- A request that is answered 403 found a post that its principal may not touch, and has
    -- changed nothing.
    (∀ i x, σ.job i = .done x → x.status = 403 →
      ∃ segment id name u p, Names segment id ∧
        (aim (requests i) = .action (.editPost segment) ∧ name = editors ∨
          aim (requests i) = .action (.deletePost segment) ∧ name = deleters) ∧
        PrincipalAfter s (requests i) (σ.past i) u ∧
        .answered (.store (.postById id)) (.ok p) ∈ σ.past i ∧
        ¬ MayTouch σ.shared name u p ∧
        ∀ c answer, .answered (.store c) answer ∈ σ.past i →
          ∀ (m : Memory) now, (m.perform now c).2 = m) := by
  have abides : ∀ i, (σ.job i).Abides (Permits s (requests i))
      (fun h x => x.status = 403 → DeniedFor s (requests i) h) (σ.past i) := fun i =>
    (run.after i).abides (answer_abides s (draws i) (requests i))
  have touches : ∀ i name id p, Cleared s (requests i) name id (σ.past i) →
      σ.shared.posts.find? id = some p → (σ.GivesAll store.nextPostId ∧ σ.Gives id) ∨
        ∃ u, PrincipalAfter s (requests i) (σ.past i) u ∧ MayTouch σ.shared name u p := by
    intro i name id p cleared stored
    by_cases again : σ.GivesAll store.nextPostId ∧ σ.Gives id
    · exact .inl again
    · exact .inr (cleared.mayTouch run fun q told => run.owner_of_told numbered again told stored)
  refine ⟨?_, ?_, ?_⟩
  · intro i id patch limit k p waits stored
    have permitted := abides i
    rw [waits] at permitted
    exact touches i editors id p permitted.1 stored
  · intro i id limit k p waits stored
    have permitted := abides i
    rw [waits] at permitted
    exact touches i deleters id p permitted.1 stored
  · intro i x done status
    have ended := abides i
    rw [done] at ended
    obtain ⟨segment, id, names, decided⟩ := ended status
    obtain ⟨name, aimed, denied⟩ : ∃ name,
        (aim (requests i) = .action (.editPost segment) ∧ name = editors ∨
          aim (requests i) = .action (.deletePost segment) ∧ name = deleters) ∧
        Denied s (requests i) name id (σ.past i) := by
      rcases decided with ⟨aimed, denied⟩ | ⟨aimed, denied⟩
      · exact ⟨editors, .inl ⟨aimed, rfl⟩, denied⟩
      · exact ⟨deleters, .inr ⟨aimed, rfl⟩, denied⟩
    obtain ⟨u, p, principal, told, may⟩ := denied.not_mayTouch run
    refine ⟨segment, id, name, u, p, names, aimed, principal, told, may, ?_⟩
    intro c answer mem m now
    exact m.perform_of_reads now (denied.2 _ answer mem)

/-- A request to delete a post of the principal's own gets as far as the call that deletes it. -/
theorem posts_authorized_own :
    let auth : Token.Authority := ⟨[1], "agora", Duration.ofSecs 60, by decide⟩
    let s : Service := ⟨auth, .plain, ⟨"operator", "secret"⟩, defaultInvitationTtl, ""⟩
    let r : Request := ⟨"DELETE", "/v1/posts/7".toList, [("authorization",
      Json.ascii "Bearer " ++ Json.ascii (auth.generate ⟨1, 0, 0, 60, "agora", "agora"⟩))], [], none⟩
    let user : User := ⟨1, "ada", "ada@agora.test", ⟨1, "user", "", 1⟩, true, default⟩
    let post : Post := ⟨7, 1, "title", "content", [], 0, default, default⟩
    let store : Memory := { Memory.seeded with
      accounts := ⟨[(1, ⟨user, ""⟩)]⟩, posts := ⟨[(7, post)]⟩, nextPostId := 8 }
    store.Numbered ∧ ∃ σ : Pool Memory Unit Response,
      Pool.Runs Memory.Tells (.start (fun _ => s.answer default r) store) σ ∧
      (∃ limit k, σ.job () = .call (.store (.deletePost 7)) limit k) ∧
      σ.shared.posts.find? 7 = some post ∧
      ∃ u, PrincipalAfter s r (σ.past ()) u ∧ MayTouch σ.shared deleters u post := by
  intro auth s r user post store
  have numbered : store.Numbered := by
    intro id p found
    by_cases same : 7 = id
    · exact same ▸ by decide
    · simp [store, Table.find?, Table.findIn, same] at found
  have names : Names ['7'] 7 := by
    unfold Names
    decide +kernel
  have presents : Presents s r default ⟨1, 0, 0, 60, "agora", "agora"⟩ := presents_generate rfl (by rfl)
  have aimed : aim r = .action (.deletePost ['7']) := by decide +kernel
  have known : store.user? 1 = some user := rfl
  have stood : store.posts.find? 7 = some post := rfl
  obtain ⟨σ, advances, same, ⟨limit, k, waits⟩, -⟩ := owner_waits_to_delete default
    (σ := Pool.start (fun _ : Unit => s.answer default r) store) (i := ()) rfl aimed names presents
    (Pool.start_job ..) rfl known stood rfl
  have stands : σ.shared.posts.find? 7 = some post := by
    rw [same]
    exact stood
  have apart : ¬ σ.Gives 7 := by
    intro gives
    obtain ⟨-, creation⟩ := creation_of_gives advances.runs gives
    cases aimed.symm.trans creation
  obtain ⟨-, deletes, -⟩ := posts_authorized s (fun _ => default) (fun _ => r) numbered advances.runs
  refine ⟨numbered, σ, advances.runs, ⟨limit, k, waits⟩, stands, ?_⟩
  exact (deletes () 7 limit k post waits stands).resolve_left fun again => apart again.2

/-- **After the last id, the first ones are given out again.** A user is about to delete a post of its own, and has
been cleared for that. Before the call takes effect, another user writes two posts. The first one is given the last
id, and the second one takes the place of the post that is about to be deleted. -/
theorem posts_authorized_exhausted :
    let auth : Token.Authority := ⟨[1], "agora", Duration.ofSecs 60, by decide⟩
    let s : Service := ⟨auth, .plain, ⟨"operator", "secret"⟩, defaultInvitationTtl, ""⟩
    let headers (id : Int64) : Http.Headers := [("content-type", Bytes.utf8 "application/json"),
      ("authorization", Json.ascii "Bearer " ++
        Json.ascii (auth.generate ⟨id, 0, 0, 60, "agora", "agora"⟩))]
    let deletion : Request := ⟨"DELETE", "/v1/posts/-9223372036854775808".toList, headers 1, [], none⟩
    let creation : Request := ⟨"POST", "/v1/posts".toList, headers 2,
      Bytes.utf8 "\x7b\"title\":\"a title\",\"content\":\"a text\"\x7d", none⟩
    let requests : Option Bool → Request := fun i => i.elim deletion fun _ => creation
    let store := (Memory.seeded.run [(default, .insertUser 1 "ada" "user" "" true),
      (default, .insertUser 2 "bob" "user" "" true), (default, .insertPost Int64.minValue 1 "first"),
      (default, .insertPost (Int64.maxValue - 1) 1 "last")]).2
    store.Numbered ∧ ∃ (σ : Pool Memory (Option Bool) Response) (p : Post),
      Pool.Runs Memory.Tells (.start (fun i => s.answer default (requests i)) store) σ ∧
      (∃ limit k, σ.job none = .call (.store (.deletePost Int64.minValue)) limit k) ∧
      σ.shared.posts.find? Int64.minValue = some p ∧
      (∃ u, PrincipalAfter s (requests none) (σ.past none) u) ∧
      ∀ u, PrincipalAfter s (requests none) (σ.past none) u → ¬ MayTouch σ.shared deleters u p := by
  intro auth s headers deletion creation requests store
  have numbered : store.Numbered := by
    intro id p found
    rcases Table.find?_insert_eq_some found with ⟨rfl, -⟩ | ⟨-, found⟩
    · decide
    · rcases Table.find?_insert_eq_some found with ⟨rfl, -⟩ | ⟨-, found⟩
      · decide
      · cases found
  let ada : User := ⟨1, "ada", "ada@agora.test",
    ⟨1, "user", "A user can create posts and comments", 1⟩, true, default⟩
  -- The owner of the first post gets as far as the call that deletes it.
  have aimed : aim deletion = .action (.deletePost "-9223372036854775808".toList) := by decide +kernel
  have names : Names "-9223372036854775808".toList Int64.minValue := by
    unfold Names
    decide +kernel
  have presents : Presents s deletion default ⟨1, 0, 0, 60, "agora", "agora"⟩ :=
    presents_generate rfl (by rfl)
  have known : store.user? 1 = some ada := by rfl
  have stood : store.posts.find? Int64.minValue =
      some ⟨Int64.minValue, 1, "first", "", [], 0, default, default⟩ := by rfl
  obtain ⟨σ₁, advances₁, same₁, ⟨limit, k, waits⟩, principal⟩ := owner_waits_to_delete default
    (σ := Pool.start (fun i => s.answer default (requests i)) store) (i := none) rfl aimed names presents
    (Pool.start_job ..) rfl known stood rfl
  -- Another user writes two posts. The first one is given the last id, and the second one the first.
  have sends : aim creation = .action .createPost := by decide +kernel
  have carries : Carries NewPost.shape creation ⟨"a title", "a text", []⟩ :=
    ⟨by decide +kernel, by decide +kernel, by decide +kernel⟩
  have kept : Form.newPost "a title" "a text" = .ok () := by decide +kernel
  have shown : Presents s creation default ⟨2, 0, 0, 60, "agora", "agora"⟩ :=
    presents_generate rfl (by rfl)
  have starts (b : Bool) : σ₁.job (some b) = s.answer default creation :=
    (advances₁.others (some b) nofun).trans (Pool.start_job ..)
  obtain ⟨a, stored, own⟩ : ∃ a, store.accounts.find? 2 = some a ∧ a.user.id = 2 := ⟨_, rfl, rfl⟩
  obtain ⟨σ₂, now₂, advances₂, left₂⟩ :=
    user_writes sends shown (starts true) (same₁ ▸ stored) own carries kept
  have starts' : σ₂.job (some false) = s.answer default creation :=
    (advances₂.others (some false) (by decide)).trans (starts false)
  have stored' : σ₂.shared.accounts.find? 2 = some a := by
    rw [left₂, same₁]
    exact stored
  obtain ⟨σ₃, now₃, advances₃, left₃⟩ :=
    user_writes sends shown starts' stored' own carries kept
  have next : σ₂.shared.nextPostId = Int64.minValue := by
    have last : store.nextPostId = Int64.maxValue := by decide
    rw [left₂, same₁]
    show store.nextPostId + 1 = _
    rw [last]
    decide
  have replaced : σ₃.shared.posts.find? Int64.minValue =
      some ⟨Int64.minValue, 2, "a title", "a text", [], 0, now₃, now₃⟩ := by
    rw [left₃, ← next]
    exact find?_createPost ..
  -- It stands where the first post has stood, and the owner of that one may not touch it.
  have role : σ₃.shared.role? deleters =
      some ⟨3, "admin", "An admin can update and delete other users posts", 3⟩ := by
    rw [left₃, left₂, same₁]
    rfl
  have pre : σ₁.past none <+: σ₃.past none :=
    (advances₂.runs.past_prefix none).trans (advances₃.runs.past_prefix none)
  refine ⟨numbered, σ₃, _, (advances₁.runs.trans advances₂.runs).trans advances₃.runs, ⟨limit, k, ?_⟩,
    replaced, ⟨ada, principal.mono pre⟩, ?_⟩
  · rw [advances₃.others none (by decide), advances₂.others none (by decide), waits]
  · intro u same may
    obtain rfl := (principal.mono pre).unique same
    rcases may with owner | ⟨admin, named, level⟩
    · have owner : (1 : Int64) = 2 := owner
      exact absurd owner (by decide)
    · cases role.symm.trans named
      have level : (3 : Int32) ≤ 1 := level
      exact absurd level (by decide)

end SideBySide

end Gatehouse.Service
