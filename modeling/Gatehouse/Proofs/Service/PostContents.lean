import Gatehouse.Proofs.Service.Atomicity
import Gatehouse.Proofs.Service.Posting
import Gatehouse.Proofs.Store.Contents

/-!
What the posts say that requests leave behind.

A post is created as the rules for new posts allow: both of its texts hold something, and neither is too
long. The rules for changes bound what is put in the place of a text, but do not ask whether it holds
anything. So no text is ever too long, and one that is blank has been sent by an accepted change.

* `Sends`, `HasPut`: a request asks to put a text into a post, and has done so.
* `runs_postsFit`: what is stored after requests that are carried out side by side.
* `Gate.run_postsFit`: the same for requests that are answered one at a time.
* `posts_stay_valid`: a stored post is valid unless it says something blank that an accepted change has put
  there.
-/

namespace Gatehouse.Service

open Http (Request Response)
open Post (Part)
open Store (Memory)

/-! ### Changes that requests ask for -/

/-- A request asks to change the post with an id by a patch. -/
structure Edits (r : Request) (id : Int64) (patch : Post.Patch) : Prop where
  aimed : ∃ segment, aim r = .action (.editPost segment) ∧ Names segment id
  held : patchShape.decode r.body = .ok patch

/-- A request asks to put a text into a part of the post with an id. -/
def Sends (r : Request) (id : Int64) (part : Part) (text : String) : Prop :=
  ∃ patch, Edits r id patch ∧ patch.text? part = some text

/-- A request has put a text into a part of the post with an id: its change has been carried out. -/
def HasPut (r : Request) (h : History) (id : Int64) (part : Part) (text : String) : Prop :=
  ∃ patch p, Edits r id patch ∧ patch.text? part = some text ∧
    .answered (.store (.updatePost id patch)) (.ok p) ∈ h

variable {excused : Int64 → Part → String → Prop}

/-! ### Requests side by side -/

section SideBySide

variable {ι : Type} [DecidableEq ι] (s : Service) (draws : ι → Draws) (requests : ι → Request)
  {store : Memory} {σ : Pool Memory ι Response}

/-- **What stored posts say stays fit while requests are carried out**, but for what changes have put there. -/
theorem runs_postsFit (fit : store.PostsFit excused)
    (run : Pool.Runs Memory.Tells (.start (fun i => s.answer (draws i) (requests i)) store) σ) :
    σ.shared.PostsFit fun id part text =>
      excused id part text ∨ ∃ i, HasPut (requests i) (σ.past i) id part text := by
  induction run with
  | refl => exact fit.mono fun id part text => .inl
  | @tail σ σ' before step ih =>
    have past {i : ι} {y : Event} (told : y ∈ σ.past i) : y ∈ σ'.past i := step.past_mono told
    obtain @⟨i, x, j, m, move, tells⟩ := step
    have makes {e : Effect} {a : e.Result} (told : x = .answered e a) :
        ∃ a, aim (requests i) = .action a ∧ Makes (requests i) a e := by
      subst told
      exact ((Pool.Runs.after before i).abides ((answer_makes s (draws i) (requests i)).abides [])).permits move
    refine (ih.mono ?_).told tells ?_ ?_
    · rintro id part text (old | ⟨i', patch, p, edits, new, told⟩)
      · exact .inl old
      · exact .inr ⟨i', patch, p, edits, new, past told⟩
    · intro d p told
      obtain ⟨a, -, makes⟩ := makes told
      cases makes with
      | looksUp looks => exact looks.elim
      | createPost kept => exact kept
    · intro id patch p told
      obtain ⟨a, aimed, makes⟩ := makes told
      cases makes with
      | looksUp looks => exact looks.elim
      | editPost names held kept =>
        refine ⟨kept, fun part text new => .inr ⟨i, patch, p, ⟨⟨_, aimed, names⟩, held⟩, new, ?_⟩⟩
        exact Pool.mem_past_tell.mpr (.inr ⟨rfl, told.symm⟩)

end SideBySide

/-! ### Requests one at a time -/

namespace Gate

/-- What a gate does with a request is done by one of the runs of its job over the store. -/
theorem handle_runs (g : Gate) (draws : Draws) (r : Request) :
    ∃ σ : Pool Memory Unit Response,
      Pool.Runs Memory.Tells (.start (fun _ => g.service.answer draws r) g.store) σ ∧
        (g.handle draws r).2.store = σ.shared := by
  obtain ⟨σ, advances, shown⟩ := g.handle_advances (i := ())
    (σ := .start (fun _ => g.service.answer draws r) g.store) draws r rfl rfl
  exact ⟨σ, advances.runs, shown⟩

/-- **What one request leaves of posts is fit**, but for what it has sent if it succeeds. -/
theorem handle_postsFit (g : Gate) (draws : Draws) (r : Request) (fit : g.store.PostsFit excused) :
    (g.handle draws r).2.store.PostsFit fun id part text =>
      excused id part text ∨ Succeeds (g.handle draws r).1 ∧ Sends r id part text := by
  by_cases success : Succeeds (g.handle draws r).1
  · obtain ⟨σ, runs, stored⟩ := g.handle_runs draws r
    rw [stored]
    refine (runs_postsFit g.service (fun _ => draws) (fun _ => r) fit runs).mono ?_
    rintro id part text (old | ⟨-, patch, p, edits, new, -⟩)
    · exact .inl old
    · exact .inr ⟨success, patch, edits, new⟩
  · rw [g.store_handle draws r success]
    exact fit.mono fun id part text => .inl

/-- **What stored posts say stays fit whatever happens to a gate**, but for what requests have sent that
have succeeded. -/
theorem run_postsFit (g : Gate) (absent : ∀ id, g.store.posts.find? id = none)
    (occurrences : List Occurrence) :
    (g.run occurrences).2.store.PostsFit fun id part text =>
      ∃ x ∈ (g.run occurrences).1, Succeeds x.response ∧ Sends x.request id part text := by
  induction occurrences using List.reverseRecOn with
  | nil => exact Memory.postsFit_of_absent absent
  | append_singleton occurrences o ih =>
    rw [g.run_concat]
    generalize g.run occurrences = t at ih
    cases o with
    | request draws r =>
      refine (t.2.handle_postsFit draws r ih).mono ?_
      rintro id part text (⟨x, mem, sent⟩ | sent)
      · exact ⟨x, List.mem_append_left _ mem, sent⟩
      · exact ⟨t.2.exchange draws r, List.mem_append_right _ (.head _), sent⟩
    | wait d => exact ih
    | sweep =>
      have same : t.2.sweep.store = t.2.store := by
        rw [store, sweep_world]
        rfl
      show t.2.sweep.store.PostsFit _
      rw [same]
      exact ih

end Gate

/-! ### Stored posts -/

/-- **A stored post is within its limits, and it is valid unless an accepted change has made it blank.**
Take a service and a store in which nothing has been posted. -/
theorem posts_stay_valid (g : Gate) (absent : ∀ id, g.store.posts.find? id = none) :
    -- Requests are carried out side by side, whatever befalls their calls: a stored post is invalid just if
    -- it says something blank that a request has put there.
    (∀ (ι : Type) [DecidableEq ι] (draws : ι → Draws) (requests : ι → Request) (σ : Pool Memory ι Response),
      Pool.Runs Memory.Tells (.start (fun i => g.service.answer (draws i) (requests i)) g.store) σ →
      ∀ id p, σ.shared.posts.find? id = some p →
        (∀ part, Form.bounded part.field (p.text part) = .ok ()) ∧
        (Form.newPost p.title p.content = .ok () ↔
          ¬ ∃ part, (∃ i, HasPut (requests i) (σ.past i) id part (p.text part)) ∧
            Text.isBlankText (p.text part) = true)) ∧
    -- Requests are answered one at a time, under any limiter and any mishaps: then one that has succeeded
    -- has sent it.
    ∀ (occurrences : List Occurrence) id p, (g.run occurrences).2.store.posts.find? id = some p →
      (∀ part, Form.bounded part.field (p.text part) = .ok ()) ∧
      (Form.newPost p.title p.content = .ok () ↔
        ¬ ∃ part, (∃ x ∈ (g.run occurrences).1, Succeeds x.response ∧
            Sends x.request id part (p.text part)) ∧
          Text.isBlankText (p.text part) = true) := by
  constructor
  · intro ι _ draws requests σ run id p found
    have nothing : g.store.PostsFit fun _ _ _ => False := Memory.postsFit_of_absent absent
    have fit := (runs_postsFit g.service draws requests nothing run).mono fun id part text put =>
      put.resolve_left False.elim
    exact ⟨fun part => (fit id p found part).1, fit.valid_iff found⟩
  · intro occurrences id p found
    have fit := g.run_postsFit absent occurrences
    exact ⟨fun part => (fit id p found part).1, fit.valid_iff found⟩

/-- A user writes a post, which then is stored, and is valid because nothing blank has been sent. -/
theorem posts_stay_valid_written :
    let auth : Token.Authority := ⟨[1], "agora", Duration.ofSecs 60, by decide⟩
    let user : User := ⟨1, "ada", "ada@agora.test", ⟨1, "user", "", 1⟩, true, default⟩
    let store : Memory := { Memory.seeded with accounts := ⟨[(1, ⟨user, ""⟩)]⟩ }
    let g : Gate := ⟨⟨auth, .plain, ⟨"operator", "secret"⟩, defaultInvitationTtl, ""⟩, .everyone,
      ⟨.start, fun _ => default, .ofStore store⟩⟩
    let create : Request := ⟨"POST", "/v1/posts".toList, [("content-type", Bytes.utf8 "application/json"),
      ("authorization", Json.ascii "Bearer " ++
        Json.ascii (auth.generate ⟨1, 0, 0, 60, "agora", "agora"⟩))],
      Bytes.utf8 "\x7b\"title\":\"a title\",\"content\":\"a text\"\x7d", none⟩
    (∀ id, g.store.posts.find? id = none) ∧
      (∃ σ : Pool Memory Unit Response,
        Pool.Runs Memory.Tells (.start (fun _ => g.service.answer default create) g.store) σ ∧
        ∃ p, σ.shared.posts.find? 1 = some p ∧ Form.newPost p.title p.content = .ok ()) ∧
      ∃ p, (g.run [.request default create]).2.store.posts.find? 1 = some p ∧
        Form.newPost p.title p.content = .ok () := by
  intro auth user store g create
  have presents : Presents g.service create default ⟨1, 0, 0, 60, "agora", "agora"⟩ :=
    presents_generate rfl (by rfl)
  have sent : SentBy g create 1 :=
    ⟨⟨rfl, Script.calm_empty⟩, Cache.Memory.faithful_empty, ⟨_, presents, rfl⟩, ⟨_, rfl, rfl⟩⟩
  have draft : Carries NewPost.shape create ⟨"a title", "a text", []⟩ :=
    ⟨by decide +kernel, by decide +kernel, by decide +kernel⟩
  obtain ⟨-, now, written⟩ := sent.creates default (by decide +kernel) draft (by decide +kernel)
  let p : Post := ⟨1, 1, "a title", "a text", [], 0, now, now⟩
  have stored : (g.handle default create).2.store.posts.find? 1 = some p := by
    rw [written]
    rfl
  have filled (part : Part) : Text.isBlankText (p.text part) ≠ true := by
    cases part with
    | title =>
      show Text.isBlankText "a title" ≠ true
      decide
    | content =>
      show Text.isBlankText "a text" ≠ true
      decide
  have absent : ∀ id, g.store.posts.find? id = none := fun id => rfl
  obtain ⟨σ, runs, shared⟩ := g.handle_runs default create
  have found : σ.shared.posts.find? 1 = some p := shared ▸ stored
  have run (g : Gate) (r : Request) : (g.run [.request default r]).2 = (g.handle default r).2 := rfl
  rw [← run] at stored
  obtain ⟨beside, inTurn⟩ := posts_stay_valid g absent
  refine ⟨absent, ⟨σ, runs, p, found, ?_⟩, p, stored, ?_⟩
  · apply (beside Unit (fun _ => default) (fun _ => create) σ runs 1 p found).2.mpr
    rintro ⟨part, -, blank⟩
    exact filled part blank
  · apply (inTurn [.request default create] 1 p stored).2.mpr
    rintro ⟨part, -, blank⟩
    exact filled part blank

/-- A user writes a post and puts a blank title in the place of its own. Both requests succeed. -/
theorem posts_stay_valid_blanked :
    let auth : Token.Authority := ⟨[1], "agora", Duration.ofSecs 60, by decide⟩
    let user : User := ⟨1, "ada", "ada@agora.test", ⟨1, "user", "", 1⟩, true, default⟩
    let store : Memory := { Memory.seeded with accounts := ⟨[(1, ⟨user, ""⟩)]⟩ }
    let g : Gate := ⟨⟨auth, .plain, ⟨"operator", "secret"⟩, defaultInvitationTtl, ""⟩, .everyone,
      ⟨.start, fun _ => default, .ofStore store⟩⟩
    let headers : Http.Headers := [("content-type", Bytes.utf8 "application/json"), ("authorization",
      Json.ascii "Bearer " ++ Json.ascii (auth.generate ⟨1, 0, 0, 60, "agora", "agora"⟩))]
    let create : Request := ⟨"POST", "/v1/posts".toList, headers,
      Bytes.utf8 "\x7b\"title\":\"a title\",\"content\":\"a text\"\x7d", none⟩
    let edit : Request := ⟨"PATCH", "/v1/posts/1".toList, headers,
      Bytes.utf8 "\x7b\"title\":\"\"\x7d", none⟩
    let os : List Occurrence := [.request default create, .request default edit]
    (∀ id, g.store.posts.find? id = none) ∧ (g.run os).1.map (·.response.status) = [201, 200] ∧
      ∃ p, (g.run os).2.store.posts.find? 1 = some p ∧
        Form.newPost p.title p.content = .error (.missing .title) := by
  intro auth user store g headers create edit os
  have presents (r : Request) (same : r.headers = headers) :
      Presents g.service r default ⟨1, 0, 0, 60, "agora", "agora"⟩ :=
    presents_generate (same ▸ rfl) (by rfl)
  have sent : SentBy g create 1 :=
    ⟨⟨rfl, Script.calm_empty⟩, Cache.Memory.faithful_empty, ⟨_, presents create rfl, rfl⟩, ⟨_, rfl, rfl⟩⟩
  have draft : Carries NewPost.shape create ⟨"a title", "a text", []⟩ :=
    ⟨by decide +kernel, by decide +kernel, by decide +kernel⟩
  obtain ⟨created, now, written⟩ := sent.creates default (by decide +kernel) draft (by decide +kernel)
  have stored : (g.handle default create).2.store.posts.find? 1 =
      some ⟨1, 1, "a title", "a text", [], 0, now, now⟩ := by
    rw [written]
    rfl
  have sent' : SentBy (g.handle default create).2 edit 1 :=
    sent.next default rfl create (congrArg (·.accounts) written) rfl
  have aimed : aim edit = .action (.editPost ['1']) := by decide +kernel
  have names : Names ['1'] 1 := by
    unfold Names
    decide +kernel
  have patch : Carries patchShape edit ⟨some "", none⟩ :=
    ⟨by decide +kernel, by decide +kernel, by decide +kernel⟩
  obtain ⟨edited, later, changed⟩ := sent'.edits default aimed names patch stored rfl (by decide +kernel)
  have blanked : ((g.handle default create).2.handle default edit).2.store.posts.find? 1 =
      some ⟨1, 1, "", "a text", [], 1, now, later⟩ := by
    rw [changed, Memory.updatePost, stored]
    exact (Table.find?_insert ..).trans (if_pos rfl)
  have run (g : Gate) (r r' : Request) :
      (g.run [.request default r, .request default r']).1.map (·.response.status) =
          [(g.handle default r).1.status, ((g.handle default r).2.handle default r').1.status] ∧
        (g.run [.request default r, .request default r']).2 =
          ((g.handle default r).2.handle default r').2 := ⟨rfl, rfl⟩
  obtain ⟨statuses, after⟩ := run g create edit
  rw [created, edited] at statuses
  rw [← after] at blanked
  exact ⟨fun id => rfl, statuses, _, blanked, rfl⟩

end Gatehouse.Service
