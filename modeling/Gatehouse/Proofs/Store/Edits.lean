import Gatehouse.Proofs.Post
import Gatehouse.Proofs.Store.Numbering
import Gatehouse.Proofs.Store.Recall

/-!
Changes of a post, over runs of a store.

* `edits`: the changes of a post that a record tells.
* `Record.Spares`: a record tells neither that the post was deleted nor that another one was put in its place.
* `carryOut_edits`: what one deed that spares a post leaves of it, by what its record tells.
* `run_edits`: a run that spares a post leaves what the changes in its record make of it, and nothing else
  does anything to it.
* `run_updatedAt`: the time of its last change does not go back.
* `run_written`: every post has been written at some point of a run and been spared since.
* `run_creations`: as long as there are ids, creations spare every post that was there before.
* `Tells.edits_or`: what a store tells to jobs is a change of a post, or leaves the post as it is.
-/

namespace Gatehouse.Store

/-! ### What a record tells about a post -/

/-- The change of a post that is told by a record. -/
def Record.edit? (id : Int64) : Record → Option Post.Edit
  | ⟨now, .call (.updatePost k patch), .ok _⟩ => if k = id then some ⟨now, patch⟩ else none
  | _ => none

/-- The changes of a post that are told by a record, the first one first. -/
def edits (id : Int64) (log : List Record) : List Post.Edit := log.filterMap (Record.edit? id)

/-- No post was written or put under an id, and none was deleted there. -/
def Record.Spares (id : Int64) : Record → Prop
  | ⟨_, .call (.createPost _), .ok p⟩ => p.id ≠ id
  | ⟨_, .call (.deletePost k), .ok _⟩ => k ≠ id
  | ⟨_, .insertPost k _ _, _⟩ => k ≠ id
  | _ => True

theorem edits_concat (id : Int64) (log : List Record) (r : Record) :
    edits id (log ++ [r]) = edits id log ++ (r.edit? id).toList := by
  rw [edits, List.filterMap_append]
  cases edit : r.edit? id <;> simp [edits, edit]

namespace Memory

variable (m : Memory) {id : Int64} {p : Post}

/-! ### One deed -/

/-- **What one deed leaves of a post** that it spares. -/
theorem carryOut_edits (now : Instant) (d : Deed) (stood : m.posts.find? id = some p)
    (spares : Record.Spares id ⟨now, d, (m.carryOut now d).1⟩) :
    (m.carryOut now d).2.posts.find? id =
      some (p.amendAll (Record.edit? id ⟨now, d, (m.carryOut now d).1⟩).toList) := by
  cases d with
  | insertUser k username role passwordHash isActive =>
    show (m.insertUser ..).2.posts.find? id = some p
    unfold insertUser
    split <;> exact stood
  | insertPost k userId title =>
    have other : k ≠ id := spares
    exact (Table.find?_insert_of_ne other ..).trans stood
  | call c =>
    by_cases posts : c.Posts
    · cases c with
      | createPost d =>
        have other : m.nextPostId ≠ id := spares
        exact (Table.find?_insert_of_ne other ..).trans stood
      | updatePost k patch =>
        by_cases same : k = id
        · subst same
          simp [carryOut, perform, updatePost, stood, Record.edit?, Post.amendAll, Table.find?_insert]
        · simp only [carryOut, perform, updatePost]
          split
          · exact stood
          · simp [Record.edit?, same, Post.amendAll, Table.find?_insert, stood]
      | deletePost k =>
        simp only [carryOut, perform, deletePost] at spares ⊢
        split
        · next found =>
          rw [if_pos found] at spares
          have other : k ≠ id := spares
          exact (Table.find?_erase_of_ne other ..).trans stood
        · exact stood
      | _ => exact posts.elim
    · have same := (m.perform_samePosts now posts).posts
      have none : Record.edit? id ⟨now, .call c, (m.carryOut now (.call c)).1⟩ = none := by
        cases c <;> first | rfl | exact absurd trivial posts
      rw [none]
      exact (congrArg (Table.find? · id) same).trans stood

/-! ### Runs -/

/-- **What a run leaves of a post** that it spares is what the changes in its record make of it. -/
theorem run_edits (stood : m.posts.find? id = some p) (script : List (Instant × Deed))
    (spares : ∀ r ∈ (m.run script).1, r.Spares id) :
    (m.run script).2.posts.find? id = some (p.amendAll (edits id (m.run script).1)) := by
  induction script using List.reverseRecOn with
  | nil => exact stood
  | append_singleton script x ih =>
    rw [run_concat] at spares ⊢
    have stands := ih fun r mem => spares r (List.mem_append_left _ mem)
    have last := carryOut_edits _ x.1 x.2 stands (spares _ (by simp [carryOn]))
    rw [carryOn, edits_concat, Post.amendAll_append]
    exact last

/-- A run goes on from where another one has led. -/
theorem run_append (script script' : List (Instant × Deed)) :
    m.run (script ++ script') =
      ((m.run script).1 ++ ((m.run script).2.run script').1, ((m.run script).2.run script').2) := by
  induction script' using List.reverseRecOn with
  | nil => simp [run]
  | append_singleton script' x ih =>
    rw [← List.append_assoc, run_concat, ih, run_concat, carryOn, carryOn, List.append_assoc]

/-- A record tells when its deed was carried out. -/
theorem run_instant {script : List (Instant × Deed)} {r : Record} (mem : r ∈ (m.run script).1) :
    ∃ x ∈ script, x.1 = r.now := by
  induction script using List.reverseRecOn with
  | nil => cases mem
  | append_singleton script x ih =>
    rw [run_concat] at mem
    rcases List.mem_append.mp mem with mem | mem
    · obtain ⟨y, old, same⟩ := ih mem
      exact ⟨y, List.mem_append_left _ old, same⟩
    · obtain rfl := List.mem_singleton.mp mem
      exact ⟨x, by simp, rfl⟩

/-- Each change that a record tells was made by a deed, and when that one was carried out. -/
theorem edits_instant {script : List (Instant × Deed)} {e : Post.Edit}
    (mem : e ∈ edits id (m.run script).1) : ∃ x ∈ script, x.1 = e.now := by
  obtain ⟨r, told, edit⟩ := List.mem_filterMap.mp mem
  obtain ⟨x, carriedOut, same⟩ := m.run_instant told
  refine ⟨x, carriedOut, same.trans ?_⟩
  unfold Record.edit? at edit
  split at edit
  · split at edit
    · cases edit
      rfl
    · cases edit
  · cases edit

/-- **No change leads back in time**, if the clock never goes back. -/
theorem run_updatedAt (stood : m.posts.find? id = some p) {earlier later : List (Instant × Deed)}
    (spares : ∀ r ∈ (m.run (earlier ++ later)).1, r.Spares id)
    (clock : (p.updatedAt :: (earlier ++ later).map Prod.fst).Pairwise fun t t' => t'.before t = false)
    {q q' : Post} (stands : (m.run earlier).2.posts.find? id = some q)
    (stands' : (m.run (earlier ++ later)).2.posts.find? id = some q') :
    q'.updatedAt.before q.updatedAt = false := by
  obtain ⟨start, order⟩ := List.pairwise_cons.mp clock
  rw [List.map_append] at start order
  obtain ⟨-, -, onward⟩ := List.pairwise_append.mp order
  rw [run_append] at spares stands'
  obtain rfl := Option.some.inj ((m.run_edits stood earlier fun r mem =>
    spares r (List.mem_append_left _ mem)).symm.trans stands)
  obtain rfl := Option.some.inj ((run_edits _ stands later fun r mem =>
    spares r (List.mem_append_right _ mem)).symm.trans stands')
  rcases (Post.amendAll_reflects _ _).updatedAt_mem with same | ⟨e, mem, same⟩
  · rw [same]
    exact Instant.before_self _
  -- The last change came after all that the post had been through.
  obtain ⟨x, carriedOut, now⟩ := edits_instant _ mem
  have late : x.1 ∈ later.map Prod.fst := List.mem_map_of_mem carriedOut
  rw [same, ← now]
  rcases (Post.amendAll_reflects _ _).updatedAt_mem with same | ⟨e, mem, same⟩
  · rw [same]
    exact start _ (List.mem_append_right _ late)
  · obtain ⟨y, carriedOut, now⟩ := edits_instant _ mem
    rw [same, ← now]
    exact onward _ (List.mem_map_of_mem carriedOut) _ late

/-! ### New posts -/

/-- What stands under an id that a deed does not spare was written by it. -/
theorem carryOut_written (now : Instant) (d : Deed) {q : Post}
    (touches : ¬ Record.Spares id ⟨now, d, (m.carryOut now d).1⟩)
    (stands : (m.carryOut now d).2.posts.find? id = some q) :
    q.version = 0 ∧ q.createdAt = now ∧ q.updatedAt = now := by
  cases d with
  | insertUser k username role passwordHash isActive => exact absurd trivial touches
  | insertPost k userId title =>
    obtain rfl : k = id := not_not.mp touches
    obtain rfl := Option.some.inj ((Table.find?_insert_self ..).symm.trans stands)
    exact ⟨rfl, rfl, rfl⟩
  | call c =>
    cases c with
    | createPost draft =>
      obtain rfl : m.nextPostId = id := not_not.mp touches
      obtain rfl := Option.some.inj ((Table.find?_insert_self ..).symm.trans stands)
      exact ⟨rfl, rfl, rfl⟩
    | deletePost k =>
      simp only [carryOut, perform, deletePost] at touches stands
      split at touches
      · next found =>
        obtain rfl : k = id := not_not.mp touches
        rw [if_pos found] at stands
        cases (Table.find?_erase_self ..).symm.trans stands
      · exact absurd trivial touches
    | _ => exact absurd trivial touches

/-- A post that stands after a deed that spares it stood before. -/
theorem carryOut_stood (now : Instant) (d : Deed) {q : Post}
    (spares : Record.Spares id ⟨now, d, (m.carryOut now d).1⟩)
    (stands : (m.carryOut now d).2.posts.find? id = some q) : ∃ p, m.posts.find? id = some p := by
  cases m.carryOut_postChange now d with
  | kept posts _ => exact ⟨q, posts ▸ stands⟩
  | deleted k posts _ => exact ⟨q, Table.find?_erase_eq_some (posts ▸ stands)⟩
  | written own posts _ =>
    rw [posts] at stands
    rcases Table.find?_insert_eq_some stands with ⟨same, -⟩ | ⟨-, stood⟩
    · exact absurd same.symm spares
    · exact ⟨q, stood⟩
  | put own posts _ =>
    rw [posts] at stands
    rcases Table.find?_insert_eq_some stands with ⟨same, -⟩ | ⟨-, stood⟩
    · exact absurd same.symm spares
    · exact ⟨q, stood⟩
  | changed stood own posts _ =>
    rw [posts] at stands
    rcases Table.find?_insert_eq_some stands with ⟨rfl, -⟩ | ⟨-, stood⟩
    · exact ⟨_, stood⟩
    · exact ⟨q, stood⟩

/-- **Every post has been written once and been spared since.** If there were no posts at the beginning of a run,
each one that stands at its end was written by one of its deeds, and none of the later ones has deleted it or
put another one in its place. -/
theorem run_written (absent : m.posts.find? id = none) (script : List (Instant × Deed)) {q : Post}
    (stands : (m.run script).2.posts.find? id = some q) :
    ∃ before x after p, script = before ++ x :: after ∧
      (m.run (before ++ [x])).2.posts.find? id = some p ∧
      p.version = 0 ∧ p.createdAt = x.1 ∧ p.updatedAt = x.1 ∧
      ∀ r ∈ ((m.run (before ++ [x])).2.run after).1, r.Spares id := by
  induction script using List.reverseRecOn generalizing q with
  | nil => cases absent.symm.trans stands
  | append_singleton script x ih =>
    have last := stands
    rw [run_concat] at last
    by_cases spares : Record.Spares id ⟨x.1, x.2, ((m.run script).2.carryOut x.1 x.2).1⟩
    · obtain ⟨p, stood⟩ := carryOut_stood _ x.1 x.2 spares last
      obtain ⟨before, y, after, p, rfl, written, version, created, updated, since⟩ := ih stood
      refine ⟨before, y, after ++ [x], p, by simp, written, version, created, updated, ?_⟩
      rw [run_concat]
      intro r mem
      rcases List.mem_append.mp mem with mem | mem
      · exact since r mem
      · obtain rfl := List.mem_singleton.mp mem
        rw [List.append_cons, run_append] at spares
        exact spares
    · obtain ⟨version, created, updated⟩ := carryOut_written _ x.1 x.2 spares last
      exact ⟨script, x, [], q, rfl, stands, version, created, updated, fun _ mem => nomatch mem⟩

/-! ### Creations -/

/-- **Creations are of other posts.** As long as the last id is not given out, a run gives out none under which
there has been a post before. -/
theorem run_creations (older : id < m.nextPostId) (script : List (Instant × Deed))
    (more : ∀ r ∈ (m.run script).1, ∀ d, r.deed = .call (.createPost d) → r.Spares Int64.maxValue) :
    id < (m.run script).2.nextPostId ∧
      ∀ r ∈ (m.run script).1, ∀ d, r.deed = .call (.createPost d) → r.Spares id := by
  induction script using List.reverseRecOn with
  | nil => exact ⟨older, fun _ mem => nomatch mem⟩
  | append_singleton script x ih =>
    rw [run_concat] at more ⊢
    obtain ⟨below, spared⟩ := ih fun r mem => more r (List.mem_append_left _ mem)
    replace more := more _ (List.mem_append_right _ (.head _))
    obtain ⟨now, d⟩ := x
    refine ⟨?_, fun r mem draft created => ?_⟩
    · show id < ((m.run script).2.carryOut now d).2.nextPostId
      cases carryOut_postChange _ now d with
      | written _ _ next =>
        have notLast : (m.run script).2.nextPostId ≠ Int64.maxValue := more _ rfl
        rw [next]
        exact Int64.lt_trans below (Int64.lt_add_one notLast)
      | put _ _ next => exact next ▸ Int64.lt_of_lt_of_le below (le_maxId ..)
      | kept _ next => exact next ▸ below
      | changed _ _ _ next => exact next ▸ below
      | deleted _ _ next => exact next ▸ below
    · rcases List.mem_append.mp mem with mem | mem
      · exact spared r mem draft created
      · obtain rfl := List.mem_singleton.mp mem
        obtain rfl : d = .call (.createPost draft) := created
        exact fun same => Int64.lt_irrefl (same ▸ below)

end Memory

/-! ### What is told about a post -/

section Told

variable {id : Int64} {now : Instant} {c : Call} {r : (Effect.store c).Result}

/-- A call spares a post unless its answer tells otherwise. -/
theorem Record.spares_of_told
    (created : ∀ d q, Event.answered (.store c) r = .answered (.store (.createPost d)) (.ok q) → q.id ≠ id)
    (kept : Event.answered (.store c) r ≠ .answered (.store (.deletePost id)) (.ok ())) :
    Record.Spares id ⟨now, .call c, r⟩ := by
  cases c with
  | createPost d =>
    cases r with
    | ok q => exact created d q rfl
    | error e => trivial
  | deletePost k =>
    cases r with
    | ok _ => exact fun same => kept (same ▸ rfl)
    | error e => trivial
  | _ => trivial

/-- An answer tells of the change that a record tells of. -/
theorem Record.edit?_told (id : Int64) (now : Instant) (r : (Effect.store c).Result) :
    (Record.edit? id ⟨now, .call c, r⟩ = none ∧
      ∀ patch q, Event.answered (.store c) r ≠ .answered (.store (.updatePost id patch)) (.ok q)) ∨
    ∃ patch q, Record.edit? id ⟨now, .call c, r⟩ = some ⟨now, patch⟩ ∧
      Event.answered (.store c) r = .answered (.store (.updatePost id patch)) (.ok q) := by
  cases c with
  | updatePost k patch =>
    cases r with
    | error e => exact .inl ⟨rfl, fun patch q same => by cases same⟩
    | ok q =>
      by_cases same : k = id
      · subst same
        exact .inr ⟨patch, q, if_pos rfl, rfl⟩
      · refine .inl ⟨if_neg same, fun patch q told => ?_⟩
        cases told
        exact same rfl
  | _ => exact .inl ⟨rfl, fun patch q told => by cases told⟩

/-- **What a store tells about a post** that is neither written over nor deleted is that it has been changed, or
else it stands as it was. -/
theorem Memory.Tells.edits_or {m m' : Memory} {x : Event} {p : Post} (tells : m.Tells x m')
    (stood : m.posts.find? id = some p)
    (created : ∀ d q, x = .answered (.store (.createPost d)) (.ok q) → q.id ≠ id)
    (kept : x ≠ .answered (.store (.deletePost id)) (.ok ())) :
    (m'.posts.find? id = some p ∧ ∀ patch q, x ≠ .answered (.store (.updatePost id patch)) (.ok q)) ∨
    ∃ now patch q, x = .answered (.store (.updatePost id patch)) (.ok q) ∧
      m'.posts.find? id = some (p.amend patch now) := by
  cases tells with
  | performed now c =>
    have stands := m.carryOut_edits now (.call c) stood (Record.spares_of_told created kept)
    rcases Record.edit?_told id now (m.perform now c).1 with ⟨none, other⟩ | ⟨patch, q, edit, told⟩
    · exact .inl ⟨by simpa [carryOut, none, Post.amendAll] using stands, other⟩
    · exact .inr ⟨now, patch, q, told, by simpa [carryOut, edit, Post.amendAll] using stands⟩
  | failed c e => exact .inl ⟨stood, fun patch q same => by cases same⟩
  | _ => exact .inl ⟨stood, fun patch q same => by cases same⟩

end Told

end Gatehouse.Store
