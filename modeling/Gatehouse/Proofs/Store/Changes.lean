import Gatehouse.Proofs.Store.Deeds

/-!
All that one deed can do to accounts, to posts, and to the edges between users.

* `carryOut_accountChange`: an account is opened under the next id, put under an id of its own choice, or
  activated.
* `carryOut_postChange`: a post is written under the next id, put under an id of its own choice, changed
  or deleted.
* `carryOut_edge`: an edge is added between two different users that are stored.
* `carryOut_roles`: roles stay as they are.
-/

namespace Gatehouse.Store

/-- The calls by which a user begins or ends to follow another. -/
def Call.Links : Call → Prop
  | .follow _ _ | .unfollow _ _ => True
  | _ => False

namespace Memory

/-- What a deed can do to the accounts and to the next id of an account. -/
inductive AccountChange (m : Memory) : Deed → Memory → Prop where
  | kept {d : Deed} {m' : Memory} : m'.accounts = m.accounts → m'.nextUserId = m.nextUserId →
    AccountChange m d m'
  | activated {d : Deed} {m' : Memory} {id : Int64} {c : Credentials} :
    m.accounts.find? id = some c → m'.accounts = m.accounts.insert id (Store.activated c) →
    m'.nextUserId = m.nextUserId → AccountChange m d m'
  | opened {n : Newcomer} {i : Invitation} {m' : Memory} {role : Role} (now : Instant) :
    (∀ c ∈ m.accounts.values, c.user.email ≠ n.email ∧ c.user.username ≠ n.username) →
    role ∈ m.roles →
    m'.accounts = m.accounts.insert m.nextUserId
      ⟨⟨m.nextUserId, n.username, n.email, role, false, now⟩, n.passwordHash⟩ →
    m'.nextUserId = m.nextUserId + 1 → AccountChange m (.call (.createAndInvite n i)) m'
  | put {id : Int64} {username name passwordHash : String} {isActive : Bool} {m' : Memory} {role : Role}
    (now : Instant) :
    role ∈ m.roles →
    m'.accounts = m.accounts.insert id
      ⟨⟨id, username, username ++ "@agora.test", role, isActive, now⟩, passwordHash⟩ →
    m'.nextUserId = maxId m.nextUserId (id + 1) →
    AccountChange m (.insertUser id username name passwordHash isActive) m'

/-- What a deed can do to the posts and to the next id of a post. -/
inductive PostChange (m : Memory) : Deed → Memory → Prop where
  | kept {d : Deed} {m' : Memory} : m'.posts = m.posts → m'.nextPostId = m.nextPostId →
    PostChange m d m'
  | written {draft : Post.Draft} {m' : Memory} {p : Post} : p.id = m.nextPostId →
    m'.posts = m.posts.insert m.nextPostId p → m'.nextPostId = m.nextPostId + 1 →
    PostChange m (.call (.createPost draft)) m'
  | put {id userId : Int64} {title : String} {m' : Memory} {p : Post} : p.id = id →
    m'.posts = m.posts.insert id p → m'.nextPostId = maxId m.nextPostId (id + 1) →
    PostChange m (.insertPost id userId title) m'
  | changed {d : Deed} {m' : Memory} {id : Int64} {p q : Post} :
    m.posts.find? id = some p → q.id = p.id → m'.posts = m.posts.insert id q →
    m'.nextPostId = m.nextPostId → PostChange m d m'
  | deleted {d : Deed} {m' : Memory} (id : Int64) :
    m'.posts = m.posts.erase id → m'.nextPostId = m.nextPostId → PostChange m d m'

variable (m : Memory) (now : Instant)

theorem role?_mem {name : String} {role : Role} (found : m.role? name = some role) : role ∈ m.roles :=
  List.mem_of_find?_eq_some found

/-- **What a deed can do to accounts.** -/
theorem carryOut_accountChange (d : Deed) : m.AccountChange d (m.carryOut now d).2 := by
  cases d with
  | insertPost id userId title => exact .kept rfl rfl
  | insertUser id username name passwordHash isActive =>
    simp only [carryOut, insertUser]
    split
    · exact .kept rfl rfl
    · next role found => exact .put now (m.role?_mem found) rfl rfl
  | call c =>
    show m.AccountChange _ (m.perform now c).2
    by_cases enrols : c.Enrols
    · rcases result : m.perform now c with ⟨e | a, m'⟩
      · have same := m.perform_error now (c := c) (congrArg Prod.fst result)
        rw [result] at same
        obtain rfl : m' = m := same
        exact .kept rfl rfl
      cases c with
      | createAndInvite n i =>
        obtain ⟨emails, usernames, role, found, rfl, rfl⟩ := createAndInvite_eq_ok.mp result
        exact .opened now (fun c mem => ⟨emails c mem, usernames c mem⟩) (m.role?_mem found) rfl rfl
      | createInvitation userId i =>
        obtain ⟨-, rfl⟩ := createInvitation_eq_ok.mp result
        exact .kept rfl rfl
      | activate digest today =>
        obtain ⟨p, c, -, -, stood, -, rfl⟩ := activate_eq_ok.mp result
        exact .activated stood rfl rfl
      | _ => exact enrols.elim
    · have same := m.perform_sameAccounts now enrols
      exact .kept same.accounts same.nextUserId

/-- **What a deed can do to posts.** -/
theorem carryOut_postChange (d : Deed) : m.PostChange d (m.carryOut now d).2 := by
  cases d with
  | insertPost id userId title => exact .put rfl rfl rfl
  | insertUser id username name passwordHash isActive =>
    simp only [carryOut, insertUser]
    split <;> exact .kept rfl rfl
  | call c =>
    show m.PostChange _ (m.perform now c).2
    by_cases posts : c.Posts
    · cases c with
      | createPost draft => exact .written rfl rfl rfl
      | updatePost id patch =>
        simp only [perform, updatePost]
        split
        · exact .kept rfl rfl
        · next p stood => exact .changed (q := p.amend patch now) stood rfl rfl rfl
      | deletePost id =>
        simp only [perform, deletePost]
        split
        · exact .deleted id rfl rfl
        · exact .kept rfl rfl
      | _ => exact posts.elim
    · have same := m.perform_samePosts now posts
      exact .kept same.posts same.nextPostId

/-- **All calls but two leave edges as they are.** -/
theorem perform_edges {c : Call} (other : ¬ c.Links) : (m.perform now c).2.edges = m.edges := by
  rcases result : m.perform now c with ⟨e | a, m'⟩
  · have same := m.perform_error now (c := c) (congrArg Prod.fst result)
    rw [result] at same
    exact congrArg edges same
  by_cases reads : c.Reads
  · have same := m.perform_of_reads now reads
    rw [result] at same
    exact congrArg edges same
  cases c with
  | createAndInvite n i =>
    obtain ⟨-, -, role, -, -, rfl⟩ := createAndInvite_eq_ok.mp result
    rfl
  | createInvitation userId i =>
    obtain ⟨-, rfl⟩ := createInvitation_eq_ok.mp result
    rfl
  | activate digest today =>
    obtain ⟨p, c, -, -, -, -, rfl⟩ := activate_eq_ok.mp result
    rfl
  | createPost draft =>
    cases result
    rfl
  | updatePost id patch =>
    simp only [perform, updatePost] at result
    split at result <;> cases result
    rfl
  | deletePost id =>
    simp only [perform, deletePost] at result
    split at result <;> cases result
    rfl
  | follow follower user => exact absurd trivial other
  | unfollow follower user => exact absurd trivial other
  | _ => exact absurd trivial reads

/-- **What a deed can do to edges**: a new one leads from one user that is stored to another. -/
theorem carryOut_edge (d : Deed) {e : Edge} (mem : e ∈ (m.carryOut now d).2.edges) :
    e ∈ m.edges ∨ e.user ≠ e.follower ∧ (∃ c, m.accounts.find? e.user = some c) ∧
      ∃ c, m.accounts.find? e.follower = some c := by
  cases d with
  | insertPost id userId title => exact .inl mem
  | insertUser id username name passwordHash isActive =>
    simp only [carryOut, insertUser] at mem
    split at mem <;> exact .inl mem
  | call c =>
    replace mem : e ∈ (m.perform now c).2.edges := mem
    by_cases links : c.Links
    · cases c with
      | follow follower user =>
        simp only [perform, follow] at mem
        split at mem
        · exact .inl mem
        next other =>
        split at mem
        · next known =>
          obtain ⟨knowsUser, knowsFollower⟩ := Bool.and_eq_true_iff.mp known
          split at mem
          · exact .inl mem
          rcases List.mem_append.mp mem with mem | mem
          · exact .inl mem
          · obtain rfl := List.mem_singleton.mp mem
            exact .inr ⟨Ne.symm other, Option.isSome_iff_exists.mp knowsUser,
              Option.isSome_iff_exists.mp knowsFollower⟩
        · exact .inl mem
      | unfollow follower user =>
        simp only [perform, unfollow] at mem
        split at mem
        · exact .inl mem
        · exact .inl (List.mem_of_mem_filter mem)
      | _ => exact links.elim
    · exact .inl (m.perform_edges now links ▸ mem)

/-- **Roles stay as they are.** -/
theorem carryOut_roles (d : Deed) : (m.carryOut now d).2.roles = m.roles := by
  cases d with
  | insertPost id userId title => rfl
  | insertUser id username name passwordHash isActive =>
    simp only [carryOut, insertUser]
    split <;> rfl
  | call c =>
    show (m.perform now c).2.roles = m.roles
    by_cases posts : c.Posts
    · cases c with
      | createPost draft => rfl
      | updatePost id patch => exact (m.updatePost_keeps now id patch).roles
      | deletePost id => exact (m.deletePost_keeps id).roles
      | _ => exact posts.elim
    · exact (m.perform_samePosts now posts).roles

end Memory

end Gatehouse.Store
