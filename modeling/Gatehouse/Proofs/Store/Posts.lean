import Gatehouse.Store.Memory

/-!
What calls do to the posts that are stored.

* `perform_of_reads`: the calls that look things up change nothing.
* `perform_keeps`: every call that writes no post gives out no id, and what it leaves of the posts
  belongs to whom it belonged.
* `perform_descends`: every call leaves posts whose ids have been given out, and under the ids that had
  been given out before, those of the same users as before; unless it gives out the last id there is.
-/

namespace Gatehouse

/-! ### Counting in 64 bits -/

theorem Int64.toInt_add_one {n : Int64} (h : n ≠ Int64.maxValue) : (n + 1).toInt = n.toInt + 1 := by
  have last : n.toInt ≠ 2 ^ 63 - 1 := fun eq => h (Int64.toInt_inj.mp eq)
  have high := n.toInt_lt
  have low := n.le_toInt
  rw [Int64.toInt_add]
  exact Int.bmod_eq_of_le (by simp only [Int64.reduceToInt]; omega)
    (by simp only [Int64.reduceToInt]; omega)

/-- The number after another one is larger, unless that one is the largest. -/
theorem Int64.lt_add_one {n : Int64} (h : n ≠ Int64.maxValue) : n < n + 1 := by
  rw [Int64.lt_iff_toInt_lt, Int64.toInt_add_one h]
  omega

theorem Int64.eq_of_lt_add_one {n k : Int64} (h : n ≠ Int64.maxValue) (high : k < n + 1)
    (low : n ≤ k) : k = n := by
  rw [Int64.lt_iff_toInt_lt, Int64.toInt_add_one h] at high
  rw [Int64.le_iff_toInt_le] at low
  exact Int64.toInt_inj.mp (by omega)

namespace Store

/-- The calls that only look something up. -/
def Call.Reads : Call → Prop
  | .userById _ | .credentials _ | .roleByName _ | .postById _ => True
  | _ => False

/-- The calls that write, change or delete a post. -/
def Call.Posts : Call → Prop
  | .createPost _ | .updatePost _ _ | .deletePost _ => True
  | _ => False

namespace Memory

variable (m : Memory)

theorem answer_snd {α : Type} (x : Option α) : (m.answer x).2 = m := by
  cases x <;> rfl

/-- **What only looks something up changes nothing.** -/
theorem perform_of_reads (now : Instant) {c : Call} (reads : c.Reads) : (m.perform now c).2 = m := by
  cases c with
  | userById id => exact m.answer_snd _
  | credentials email => exact m.answer_snd _
  | roleByName name => exact m.answer_snd _
  | postById id => exact m.answer_snd _
  | _ => exact reads.elim

/-! ### Posts and their ids -/

/-- The id of every post has been given out. -/
def Numbered : Prop := ∀ id p, m.posts.find? id = some p → id < m.nextPostId

/-- Two stores have the same roles and posts, and go on with the same post id. -/
structure SamePosts (m m' : Memory) : Prop where
  roles : m'.roles = m.roles
  posts : m'.posts = m.posts
  nextPostId : m'.nextPostId = m.nextPostId

/-- From one store to another, no id is given out and no post comes to be or changes hands. -/
structure Keeps (m m' : Memory) : Prop where
  roles : m'.roles = m.roles
  counter : m'.nextPostId = m.nextPostId
  owner : ∀ id q, m'.posts.find? id = some q → ∃ p, m.posts.find? id = some p ∧ q.userId = p.userId

/-- From one store to another, no id is given out again, and no post changes hands. -/
structure Descends (m m' : Memory) : Prop where
  roles : m'.roles = m.roles
  numbered : m.Numbered → m'.Numbered
  counter : m.nextPostId ≤ m'.nextPostId
  owner : ∀ id q, id < m.nextPostId → m'.posts.find? id = some q →
    ∃ p, m.posts.find? id = some p ∧ q.userId = p.userId

variable {m} {m' : Memory}

theorem SamePosts.refl (m : Memory) : m.SamePosts m := ⟨rfl, rfl, rfl⟩

theorem SamePosts.keeps (same : m.SamePosts m') : m.Keeps m' where
  roles := same.roles
  counter := same.nextPostId
  owner _ q found := ⟨q, same.posts ▸ found, rfl⟩

theorem Keeps.refl (m : Memory) : m.Keeps m := (SamePosts.refl m).keeps

theorem Keeps.descends (keeps : m.Keeps m') : m.Descends m' where
  roles := keeps.roles
  counter := keeps.counter ▸ Int64.le_refl _
  numbered numbered id q found := by
    obtain ⟨p, before, -⟩ := keeps.owner id q found
    rw [keeps.counter]
    exact numbered id p before
  owner id q _ := keeps.owner id q

variable (m)

theorem updatePost_keeps (now : Instant) (id : Int64) (patch : Post.Patch) :
    m.Keeps (m.updatePost now id patch).2 := by
  unfold updatePost
  split
  · exact .refl m
  · next p stood =>
    refine ⟨rfl, rfl, fun id' q found => ?_⟩
    replace found := (Table.find?_insert ..).symm.trans found
    split at found
    · next same =>
      obtain rfl := Option.some.inj found
      exact ⟨p, same ▸ stood, rfl⟩
    · exact ⟨q, found, rfl⟩

theorem deletePost_keeps (id : Int64) : m.Keeps (m.deletePost id).2 := by
  unfold deletePost
  split
  · refine ⟨rfl, rfl, fun id' q found => ?_⟩
    replace found := (Table.find?_erase ..).symm.trans found
    split at found
    · cases found
    · exact ⟨q, found, rfl⟩
  · exact .refl m

/-- **All calls but three leave posts as they are.** -/
theorem perform_samePosts (now : Instant) {c : Call} (other : ¬ c.Posts) :
    m.SamePosts (m.perform now c).2 := by
  by_cases reads : c.Reads
  · rw [m.perform_of_reads now reads]
    exact .refl m
  cases c with
  | createAndInvite n i =>
    simp only [perform, createAndInvite]
    split
    · exact .refl m
    split
    · exact .refl m
    split <;> exact ⟨rfl, rfl, rfl⟩
  | createInvitation userId i =>
    simp only [perform, createInvitation]
    split <;> exact ⟨rfl, rfl, rfl⟩
  | activate digest today =>
    simp only [perform, activate]
    split
    · exact .refl m
    split
    · split <;> exact ⟨rfl, rfl, rfl⟩
    · exact .refl m
  | follow follower user =>
    simp only [perform, follow]
    split
    · exact .refl m
    split
    · split <;> exact ⟨rfl, rfl, rfl⟩
    · exact .refl m
  | unfollow follower user =>
    simp only [perform, unfollow]
    split <;> exact ⟨rfl, rfl, rfl⟩
  | createPost d => exact absurd trivial other
  | updatePost id patch => exact absurd trivial other
  | deletePost id => exact absurd trivial other
  | _ => exact absurd trivial reads

/-- **No call but one gives out ids, and none of them changes whose a post is.** -/
theorem perform_keeps (now : Instant) {c : Call} (other : ∀ d, c ≠ .createPost d) :
    m.Keeps (m.perform now c).2 := by
  by_cases posts : c.Posts
  · cases c with
    | createPost d => exact absurd rfl (other d)
    | updatePost id patch => exact m.updatePost_keeps now id patch
    | deletePost id => exact m.deletePost_keeps id
    | _ => exact posts.elim
  · exact (m.perform_samePosts now posts).keeps

theorem createPost_descends (now : Instant) (d : Post.Draft) (more : m.nextPostId ≠ Int64.maxValue) :
    m.Descends (m.createPost now d).2 := by
  have next : m.nextPostId < m.nextPostId + 1 := Int64.lt_add_one more
  refine ⟨rfl, fun numbered id q found => ?_, Int64.le_of_lt next, fun id q old found => ?_⟩
  · replace found := (Table.find?_insert ..).symm.trans found
    split at found
    · next same => exact same ▸ next
    · exact Int64.lt_trans (numbered id q found) next
  · have other : m.nextPostId ≠ id := fun same => Int64.lt_irrefl (same ▸ old)
    exact ⟨q, (Table.find?_insert_of_ne other ..).symm.trans found, rfl⟩

/-- **No call gives out an id twice or changes whose a post is**, as long as there are ids. -/
theorem perform_descends (now : Instant) (c : Call)
    (more : ∀ d, c = .createPost d → m.nextPostId ≠ Int64.maxValue) :
    m.Descends (m.perform now c).2 := by
  by_cases creation : ∃ d, c = .createPost d
  · obtain ⟨d, rfl⟩ := creation
    exact m.createPost_descends now d (more d rfl)
  · exact (m.perform_keeps now fun d same => creation ⟨d, same⟩).descends

-- After the last id, the first ones are given out again, and a post of another user takes the place.
example :
    let p : Post := ⟨Int64.minValue, 1, "", "", [], 0, default, default⟩
    let m : Memory := { empty with posts := ⟨[(p.id, p)]⟩, nextPostId := Int64.maxValue }
    let m' := ((m.createPost default ⟨2, "", "", []⟩).2.createPost default ⟨2, "", "", []⟩).2
    (m'.posts.find? p.id).map (·.userId) = some 2 := by
  decide

end Memory

end Store

end Gatehouse
