import Gatehouse.Proofs.Service.PostContents
import Gatehouse.Proofs.Store.Edits

/-!
Changes of posts that requests make side by side.

* `editAccepted_iff`: a request to change a post is answered 200 exactly if its change has been carried out.
* `runs_reflect`: what is left of a post that no other one has been put in the place of reflects the changes of all
  requests that have been answered 200, each of them once.
* `no_edit_lost`: the same for all that a store is asked for, in whatever order.
-/

namespace Gatehouse.Service

open Http (Request Response)
open Store (Memory)

/-! ### Requests that change posts -/

/-- A job has carried out a change of the post with an id. -/
def HasEdited (h : History) (id : Int64) (patch : Post.Patch) : Prop :=
  ∃ q, .answered (.store (.updatePost id patch)) (.ok q) ∈ h

/-- A request to change the post with an id has been answered 200. -/
def EditAccepted (r : Request) (j : Job Response) (id : Int64) : Prop :=
  ∃ segment x, aim r = .action (.editPost segment) ∧ Names segment id ∧ j = .done x ∧ x.status = 200

/-- A request to delete the post with an id has been answered with success. -/
def DeletionAccepted (r : Request) (j : Job Response) (id : Int64) : Prop :=
  ∃ segment x, aim r = .action (.deletePost segment) ∧ Names segment id ∧ j = .done x ∧ Succeeds x

/-- **A change is reported just if it has been carried out.** -/
theorem editPost_reports (u : User) (segment : List Char) (r : Request) (h : History) :
    (Service.editPost u segment r).Abides (fun _ _ => True) (fun _ _ => True)
      (fun h x => x.status = 200 ∧ ∃ id patch, Names segment id ∧ HasEdited h id patch) h := by
  refine ((segmentId_idle segment).abides fun _ _ => trivial).bind ?_
  rintro h id ⟨rfl, done⟩
  refine ((payload_idle _ r).abides fun _ _ => trivial).bind ?_
  rintro h patch ⟨rfl, -⟩
  have owned : (ownPost u id editors).Abides (fun _ _ => True) (fun _ _ => True) (fun _ _ => True) h :=
    ((ownPost_looksUp u id editors).abides h).mono (fun _ _ _ => trivial) fun _ x _ => by cases x <;> trivial
  refine owned.bind fun h _ _ => ?_
  refine ((keep_idle _).abides fun _ _ => trivial).bind ?_
  rintro h _ ⟨rfl, -⟩
  have changed : (Attempt.store (.updatePost id patch)).Abides (fun _ _ => True) (fun _ _ => True)
      (fun h _ => HasEdited h id patch) h :=
    .store trivial (fun q => ⟨q, by simp⟩) fun _ => trivial
  exact changed.bind fun h q edited => .pure ⟨rfl, id, patch, names_of_run done, edited⟩

/-- A request to change a post that is not answered 200 reports an error. -/
theorem answer_editPost_reports (s : Service) (draws : Draws) {r : Request} {segment : List Char}
    (aimed : aim r = .action (.editPost segment)) :
    (s.answer draws r).Abides (fun _ _ => True)
      (fun h x => 400 ≤ x.status ∨
        x.status = 200 ∧ ∃ id patch, Names segment id ∧ HasEdited h id patch) [] := by
  have found : (s.principal r).Abides (fun _ _ => True) (fun _ _ => True) (fun _ _ => True) [] :=
    ((principal_looksUp s r).abides []).mono (fun _ _ _ => trivial) fun _ x _ => by cases x <;> trivial
  rw [answer_eq_respond s draws aimed]
  exact (found.bind fun h u _ => editPost_reports u segment r h).respond (fun _ _ reported => .inr reported)
    fun _ e _ => .inl e.status_response

section SideBySide

variable {ι : Type} [DecidableEq ι] {s : Service} {draws : ι → Draws} {requests : ι → Request}
  {store : Memory} {σ : Pool Memory ι Response}
  (run : Pool.Runs Memory.Tells (.start (fun i => s.answer (draws i) (requests i)) store) σ)

include run

/-- What has been carried out for a request is what it asks for, and it has been answered with success. -/
theorem answered_of_told {i : ι} {c : Store.Call} {a : c.Answer}
    (told : .answered (.store c) (.ok a) ∈ σ.past i) (writes : ¬ c.Reads) :
    (∃ b, aim (requests i) = .action b ∧ Makes (requests i) b (.store c)) ∧
      ∃ x, σ.job i = .done x ∧ Succeeds x :=
  ⟨(answer_makes s (draws i) (requests i)).of_told (run.after i) told,
    (answer_commits s (draws i) (requests i)).written (run.after i) writes told⟩

/-- What has been carried out for a request that changes a post is what its body holds. -/
theorem edits_of_hasEdited {i : ι} {id : Int64} {patch : Post.Patch} (edited : HasEdited (σ.past i) id patch) :
    Edits (requests i) id patch := by
  obtain ⟨q, told⟩ := edited
  obtain ⟨⟨b, aimed, makes⟩, -⟩ := answered_of_told run told fun reads => reads
  cases makes with
  | looksUp looks => exact looks.elim
  | editPost names held kept => exact ⟨⟨_, aimed, names⟩, held⟩

/-- **A request to change a post is answered 200 exactly if its change has been carried out.** -/
theorem editAccepted_iff {i : ι} {id : Int64} :
    EditAccepted (requests i) (σ.job i) id ↔ ∃ patch, HasEdited (σ.past i) id patch := by
  constructor
  · rintro ⟨segment, x, aimed, names, done, status⟩
    have reported := (run.after i).abides (answer_editPost_reports s (draws i) aimed)
    rw [done] at reported
    rcases reported with failed | ⟨-, k, patch, named, edited⟩
    · omega
    · cases (names.symm.trans named)
      exact ⟨patch, edited⟩
  · rintro ⟨patch, edited⟩
    obtain ⟨segment, aimed, names⟩ := (edits_of_hasEdited run edited).aimed
    obtain ⟨q, told⟩ := edited
    obtain ⟨-, x, done, success⟩ := answered_of_told run told fun reads => reads
    have reported := (run.after i).abides (answer_editPost_reports s (draws i) aimed)
    rw [done] at reported
    rcases reported with failed | ⟨status, -⟩
    · have := success.2
      omega
    · exact ⟨segment, x, aimed, names, done, status⟩

/-- A deletion that has been carried out has been answered with success. -/
theorem deletionAccepted_of_told {i : ι} {id : Int64}
    (told : .answered (.store (.deletePost id)) (.ok ()) ∈ σ.past i) :
    DeletionAccepted (requests i) (σ.job i) id := by
  obtain ⟨⟨b, aimed, makes⟩, x, done, success⟩ := answered_of_told run told fun reads => reads
  cases makes with
  | looksUp looks => exact looks.elim
  | deletePost names => exact ⟨_, x, aimed, names, done, success⟩

end SideBySide

/-! ### What requests leave of a post -/

section Gathers

variable {ι : Type} {id : Int64} {p : Post} {edits : List (ι × Post.Edit)}

/-- A list of changes of a post, each with the job that has made it: the post that is stored is what they leave
of it, no job has made two of them, and they are what the jobs have been told. -/
structure Gathers (σ : Pool Memory ι Response) (id : Int64) (p : Post) (edits : List (ι × Post.Edit)) :
    Prop where
  stands : σ.shared.posts.find? id = some (p.amendAll (edits.map Prod.snd))
  once : (edits.map Prod.fst).Nodup
  told : ∀ i patch, (∃ now, (i, ⟨now, patch⟩) ∈ edits) ↔ HasEdited (σ.past i) id patch

variable [DecidableEq ι] {σ σ' : Pool Memory ι Response} {i i' : ι} {x : Event} {j : Job Response} {m : Memory}
  {patch : Post.Patch}

/-- A change has been carried out for a job before it is told something, or it is told just that. -/
theorem hasEdited_tell : HasEdited ((σ.tell i x j m).past i') id patch ↔
    HasEdited (σ.past i') id patch ∨ i' = i ∧ ∃ q, x = .answered (.store (.updatePost id patch)) (.ok q) := by
  simp only [HasEdited, Pool.mem_past_tell, exists_or, exists_and_left]
  simp only [eq_comm]

/-- What is no change leaves the changes as they are. -/
theorem Gathers.keep (gathers : Gathers σ id p edits)
    (stands : m.posts.find? id = some (p.amendAll (edits.map Prod.snd)))
    (other : ∀ patch q, x ≠ .answered (.store (.updatePost id patch)) (.ok q)) :
    Gathers (σ.tell i x j m) id p edits where
  stands := stands
  once := gathers.once
  told i' patch := by
    rw [gathers.told, hasEdited_tell]
    exact ⟨.inl, fun edited => edited.resolve_right fun ⟨_, q, told⟩ => other patch q told⟩

/-- A change by a job that has made none before is the last of them. -/
theorem Gathers.add (gathers : Gathers σ id p edits) {now : Instant} {q : Post}
    (first : i ∉ edits.map Prod.fst)
    (stands : m.posts.find? id = some ((p.amendAll (edits.map Prod.snd)).amend patch now)) :
    Gathers (σ.tell i (.answered (.store (.updatePost id patch)) (.ok q)) j m) id p
      (edits ++ [(i, ⟨now, patch⟩)]) where
  stands := by
    rw [List.map_append, List.map_singleton, Post.amendAll_concat]
    exact stands
  once := by
    rw [List.map_append]
    exact gathers.once.append (List.nodup_singleton i) (List.disjoint_singleton.mpr first)
  told i' patch' := by
    rw [hasEdited_tell, ← gathers.told]
    constructor
    · rintro ⟨now', mem⟩
      rcases List.mem_append.mp mem with mem | mem
      · exact .inl ⟨now', mem⟩
      · cases List.mem_singleton.mp mem
        exact .inr ⟨rfl, q, rfl⟩
    · rintro (⟨now', mem⟩ | ⟨rfl, q', same⟩)
      · exact ⟨now', List.mem_append_left _ mem⟩
      · cases same
        exact ⟨now, by simp⟩

/-- **What one step leaves of a post** that is neither written over nor deleted. Who has changed it has nothing
left to do. -/
theorem Gathers.step (gathers : Gathers σ id p edits) (step : Pool.Step Memory.Tells σ σ')
    (ended : ∀ i patch, HasEdited (σ.past i) id patch → ∃ x, σ.job i = .done x) (apart : ¬ σ'.Gives id)
    (kept : ∀ i, .answered (.store (.deletePost id)) (.ok ()) ∉ σ'.past i) :
    ∃ edits', Gathers σ' id p edits' := by
  obtain @⟨i, x, j, m, move, tells⟩ := step
  have new : x ∈ (σ.tell i x j m).past i := Pool.mem_past_tell.mpr (.inr ⟨rfl, rfl⟩)
  rcases tells.edits_or gathers.stands (fun d q told same => apart ⟨i, d, q, told ▸ new, same⟩)
    (fun told => kept i (told ▸ new)) with ⟨stands, other⟩ | ⟨now, patch, q, rfl, stands⟩
  · exact ⟨edits, gathers.keep stands other⟩
  · refine ⟨_, gathers.add ?_ stands⟩
    intro editor
    obtain ⟨⟨i', e⟩, mem, rfl⟩ := List.mem_map.mp editor
    obtain ⟨x, done⟩ := ended i' e.patch ((gathers.told i' e.patch).mp ⟨e.now, mem⟩)
    rw [done] at move
    cases move

variable {s : Service} {draws : ι → Draws} {requests : ι → Request} {store : Memory}

/-- **What requests leave of a post** that is neither written over nor deleted, however they are interleaved. -/
theorem runs_gathers (stood : store.posts.find? id = some p)
    (run : Pool.Runs Memory.Tells (.start (fun i => s.answer (draws i) (requests i)) store) σ)
    (apart : ¬ σ.Gives id) (kept : ∀ i, .answered (.store (.deletePost id)) (.ok ()) ∉ σ.past i) :
    ∃ edits, Gathers σ id p edits := by
  induction run with
  | refl =>
    refine ⟨[], stood, .nil, fun i patch => ⟨?_, ?_⟩⟩
    · rintro ⟨_, mem⟩
      cases mem
    · rintro ⟨_, told⟩
      cases told
  | tail before step ih =>
    obtain ⟨edits, gathers⟩ := ih (fun gives => apart (gives.step step)) fun i told =>
      kept i (step.past_mono told)
    refine gathers.step step ?_ apart kept
    rintro i patch ⟨q, told⟩
    obtain ⟨-, x, done, -⟩ := answered_of_told before told fun reads => reads
    exact ⟨x, done⟩

/-- **What requests leave of a post** reflects one change for each request that has been answered 200. -/
theorem runs_reflect
    (run : Pool.Runs Memory.Tells (.start (fun i => s.answer (draws i) (requests i)) store) σ)
    (stood : store.posts.find? id = some p) (apart : ¬ σ.Gives id)
    (kept : ∀ i, ¬ DeletionAccepted (requests i) (σ.job i) id) :
    ∃ (edits : List (ι × Post.Edit)) (q : Post),
      σ.shared.posts.find? id = some q ∧ p.Reflects (edits.map Prod.snd) q ∧ (edits.map Prod.fst).Nodup ∧
      (∀ i, i ∈ edits.map Prod.fst ↔ EditAccepted (requests i) (σ.job i) id) ∧
      ∀ i e, (i, e) ∈ edits → Edits (requests i) id e.patch := by
  obtain ⟨edits, gathers⟩ := runs_gathers stood run apart fun i told =>
    kept i (deletionAccepted_of_told run told)
  refine ⟨edits, _, gathers.stands, p.amendAll_reflects _, gathers.once, fun i => ?_, fun i e mem => ?_⟩
  · rw [editAccepted_iff run]
    constructor
    · intro editor
      obtain ⟨⟨i, e⟩, mem, rfl⟩ := List.mem_map.mp editor
      exact ⟨e.patch, (gathers.told i e.patch).mp ⟨e.now, mem⟩⟩
    · rintro ⟨patch, edited⟩
      obtain ⟨now, mem⟩ := (gathers.told i patch).mpr edited
      exact List.mem_map_of_mem mem
  · exact edits_of_hasEdited run ((gathers.told i e.patch).mp ⟨e.now, mem⟩)

end Gathers

/-! ### Edits -/

/-- **No edit is lost.** -/
theorem no_edit_lost :
    -- Whatever a store is asked for: a post of it that is not deleted, and in the place of which no other one is
    -- put, reflects the changes of it that have succeeded. Its version has grown by as many as they are.
    (∀ (m : Memory) (script : List (Instant × Store.Deed)) (id : Int64) (p : Post),
      m.posts.find? id = some p → (∀ r ∈ (m.run script).1, r.Spares id) →
      ∃ q, (m.run script).2.posts.find? id = some q ∧ p.Reflects (Store.edits id (m.run script).1) q ∧
        (p.version.toInt + (Store.edits id (m.run script).1).length ≤ Int32.maxValue.toInt →
          q.version.toInt = p.version.toInt + (Store.edits id (m.run script).1).length)) ∧
    -- Every post has such a life, and as version 0 at its beginning: if there was none under its id at first, it
    -- was written by some deed, and then its version is the number of the changes since.
    (∀ (m : Memory) (script : List (Instant × Store.Deed)) (id : Int64) (q : Post),
      m.posts.find? id = none → (m.run script).2.posts.find? id = some q →
      ∃ before x after p, script = before ++ x :: after ∧
        (m.run (before ++ [x])).2.posts.find? id = some p ∧ p.createdAt = x.1 ∧ p.updatedAt = x.1 ∧
        let edits := Store.edits id ((m.run (before ++ [x])).2.run after).1
        p.Reflects edits q ∧ (edits.length ≤ Int32.maxValue.toInt → q.version.toInt = edits.length)) ∧
    -- Creations are of other posts: if one has put a post in its place after all, then the last id there is has
    -- been given out, and ids have started over.
    (∀ (m : Memory) (script : List (Instant × Store.Deed)) (id : Int64), id < m.nextPostId →
      ∀ r ∈ (m.run script).1, ∀ d, r.deed = .call (.createPost d) → ¬ r.Spares id →
        ∃ r' ∈ (m.run script).1, ∃ d', r'.deed = .call (.createPost d') ∧ ¬ r'.Spares Int64.maxValue) ∧
    -- If the clock never goes back, the time of its last change does not either.
    (∀ (m : Memory) (earlier later : List (Instant × Store.Deed)) (id : Int64) (p q q' : Post),
      m.posts.find? id = some p → (∀ r ∈ (m.run (earlier ++ later)).1, r.Spares id) →
      ((p.updatedAt :: (earlier ++ later).map Prod.fst).Pairwise fun t t' => t'.before t = false) →
      (m.run earlier).2.posts.find? id = some q → (m.run (earlier ++ later)).2.posts.find? id = some q' →
      q'.updatedAt.before q.updatedAt = false) ∧
    -- Two changes one after the other that do not both carry the same text can be made in either order.
    (∀ (m m' : Memory) (script script' : List (Instant × Store.Deed)) (id : Int64) (p : Post)
      (first last : List Post.Patch) (a b : Post.Patch),
      m.posts.find? id = some p → (∀ r ∈ (m.run script).1, r.Spares id) →
      m'.posts.find? id = some p → (∀ r ∈ (m'.run script').1, r.Spares id) →
      (∀ part, a.text? part = none ∨ b.text? part = none) →
      (Store.edits id (m.run script).1).map Post.Edit.patch = first ++ a :: b :: last →
      (Store.edits id (m'.run script').1).map Post.Edit.patch = first ++ b :: a :: last →
      ∃ q q', (m.run script).2.posts.find? id = some q ∧ (m'.run script').2.posts.find? id = some q' ∧
        q'.title = q.title ∧ q'.content = q.content ∧ q'.version = q.version) ∧
    -- Requests are carried out side by side, whatever befalls their calls, none has deleted a post, and no other
    -- one has been put in its place: the post reflects one change for each request to change it that has been
    -- answered 200, and it is the change that the body of this request holds. Before a post is put in the place of
    -- another one, every id from the first free one on has been given out.
    ∀ (s : Service) (ι : Type) [DecidableEq ι] (draws : ι → Draws) (requests : ι → Request) (store : Memory)
      (σ : Pool Memory ι Response) (id : Int64) (p : Post), store.posts.find? id = some p →
      Pool.Runs Memory.Tells (.start (fun i => s.answer (draws i) (requests i)) store) σ →
      (¬ σ.Gives id → (∀ i, ¬ DeletionAccepted (requests i) (σ.job i) id) →
        ∃ (edits : List (ι × Post.Edit)) (q : Post),
          σ.shared.posts.find? id = some q ∧ p.Reflects (edits.map Prod.snd) q ∧ (edits.map Prod.fst).Nodup ∧
          (∀ i, i ∈ edits.map Prod.fst ↔ EditAccepted (requests i) (σ.job i) id) ∧
          ∀ i e, (i, e) ∈ edits → Edits (requests i) id e.patch) ∧
      (id < store.nextPostId → σ.Gives id → σ.GivesAll store.nextPostId) := by
  refine ⟨?_, ?_, ?_, ?_, ?_, ?_⟩
  · intro m script id p stood spares
    have reflects := p.amendAll_reflects (Store.edits id (m.run script).1)
    exact ⟨_, m.run_edits stood script spares, reflects, reflects.toInt_version⟩
  · intro m script id q absent stands
    obtain ⟨before, x, after, p, rfl, written, version, created, updated, spares⟩ :=
      m.run_written absent script stands
    have reflects := p.amendAll_reflects (Store.edits id ((m.run (before ++ [x])).2.run after).1)
    have stays := Memory.run_edits _ written after spares
    rw [List.append_cons, Memory.run_append] at stands
    obtain rfl := Option.some.inj (stays.symm.trans stands)
    exact ⟨before, x, after, p, rfl, written, created, updated, reflects, reflects.toInt_version_of_new version⟩
  · intro m script id older r mem d creation replaces
    by_contra none
    refine replaces ((m.run_creations older script fun r' mem' d' creation' => ?_).2 r mem d creation)
    by_contra last
    exact none ⟨r', mem', d', creation', last⟩
  · intro m earlier later id p q q' stood spares clock stands stands'
    exact m.run_updatedAt stood spares clock stands stands'
  · intro m m' script script' id p first last a b stood spares stood' spares' apart order order'
    obtain ⟨texts, version⟩ := (p.amendAll_reflects _).swap (p.amendAll_reflects _) apart order order'
    exact ⟨_, _, m.run_edits stood script spares, m'.run_edits stood' script' spares',
      texts .title, texts .content, version⟩
  · intro s ι _ draws requests store σ id p stood run
    exact ⟨fun apart kept => runs_reflect run stood apart kept, fun older gives => run.gives_all_of_lt older gives⟩

/-- A post gets a new title and then a new text, or the other way round; and its owner sends a request that gives
it the title. -/
theorem no_edit_lost_renamed :
    let auth : Token.Authority := ⟨[1], "agora", Duration.ofSecs 60, by decide⟩
    let user : User := ⟨1, "ada", "ada@agora.test", ⟨1, "user", "", 1⟩, true, default⟩
    let p : Post := ⟨7, 1, "a title", "a text", [], 0, default, default⟩
    let store : Memory := { Memory.seeded with
      accounts := ⟨[(1, ⟨user, ""⟩)]⟩, posts := ⟨[(7, p)]⟩, nextPostId := 8 }
    let change (title content : Option String) : Instant × Store.Deed :=
      (default, .call (.updatePost 7 ⟨title, content⟩))
    let script := [change (some "a name") none, change none (some "a word")]
    let script' := [change none (some "a word"), change (some "a name") none]
    let g : Gate := ⟨⟨auth, .plain, ⟨"operator", "secret"⟩, defaultInvitationTtl, ""⟩, .everyone,
      ⟨.start, fun _ => default, .ofStore store⟩⟩
    let edit : Request := ⟨"PATCH", "/v1/posts/7".toList, [("content-type", Bytes.utf8 "application/json"),
      ("authorization", Json.ascii "Bearer " ++
        Json.ascii (auth.generate ⟨1, 0, 0, 60, "agora", "agora"⟩))],
      Bytes.utf8 "\x7b\"title\":\"a name\"\x7d", none⟩
    store.posts.find? 7 = some p ∧
      (∃ q, (store.run script).2.posts.find? 7 = some q ∧ q.version.toInt = 2) ∧
      (∃ q q', (store.run script).2.posts.find? 7 = some q ∧ (store.run script').2.posts.find? 7 = some q' ∧
        q'.title = q.title ∧ q'.content = q.content ∧ q'.version = q.version) ∧
      ∃ σ : Pool Memory Unit Response,
        Pool.Runs Memory.Tells (.start (fun _ => g.service.answer default edit) store) σ ∧
        (σ.shared.posts.find? 7).map (·.title) = some "a name" ∧
        ∃ (edits : List (Unit × Post.Edit)) (q : Post),
          σ.shared.posts.find? 7 = some q ∧ p.Reflects (edits.map Prod.snd) q := by
  intro auth user p store change script script' g edit
  obtain ⟨reflects, -, -, -, swaps, requests⟩ := no_edit_lost
  have stood : store.posts.find? 7 = some p := rfl
  have spares : ∀ r ∈ (store.run script).1, r.Spares 7 :=
    List.forall_mem_cons.mpr ⟨trivial, List.forall_mem_singleton.mpr trivial⟩
  have spares' : ∀ r ∈ (store.run script').1, r.Spares 7 :=
    List.forall_mem_cons.mpr ⟨trivial, List.forall_mem_singleton.mpr trivial⟩
  have order : (Store.edits 7 (store.run script).1).map Post.Edit.patch =
      [⟨some "a name", none⟩, ⟨none, some "a word"⟩] := rfl
  have order' : (Store.edits 7 (store.run script').1).map Post.Edit.patch =
      [⟨none, some "a word"⟩, ⟨some "a name", none⟩] := rfl
  refine ⟨stood, ?_, ?_, ?_⟩
  · obtain ⟨q, stands, -, version⟩ := reflects store script 7 p stood spares
    exact ⟨q, stands, version (by decide)⟩
  · refine swaps store store script script' 7 p [] [] _ _ stood spares stood spares' ?_ order order'
    intro part
    cases part
    · exact .inr rfl
    · exact .inl rfl
  · have presents : Presents g.service edit default ⟨1, 0, 0, 60, "agora", "agora"⟩ :=
      presents_generate rfl (by rfl)
    have sent : SentBy g edit 1 :=
      ⟨⟨rfl, Script.calm_empty⟩, Cache.Memory.faithful_empty, ⟨_, presents, rfl⟩, ⟨_, rfl, rfl⟩⟩
    have aimed : aim edit = .action (.editPost ['7']) := by decide +kernel
    have names : Names ['7'] 7 := by
      unfold Names
      decide +kernel
    have patch : Carries patchShape edit ⟨some "a name", none⟩ :=
      ⟨by decide +kernel, by decide +kernel, by decide +kernel⟩
    obtain ⟨-, now, changed⟩ := sent.edits default aimed names patch stood rfl (by decide +kernel)
    obtain ⟨σ, runs, shared⟩ := g.handle_runs default edit
    have renamed : (σ.shared.posts.find? 7).map (·.title) = some "a name" := by
      rw [← shared, changed]
      rfl
    refine ⟨σ, runs, renamed, ?_⟩
    have kept : ∀ i, ¬ DeletionAccepted edit (σ.job i) 7 := by
      rintro i ⟨segment, x, deletion, -⟩
      cases aimed.symm.trans deletion
    have apart : ¬ σ.Gives 7 := by
      intro gives
      obtain ⟨-, creation⟩ := creation_of_gives runs gives
      cases aimed.symm.trans creation
    obtain ⟨edits, q, stands, gathered, -⟩ :=
      (requests g.service Unit (fun _ => default) (fun _ => edit) store σ 7 p stood runs).1 apart kept
    exact ⟨edits, q, stands, gathered⟩

end Gatehouse.Service
