import Mathlib.Data.List.Induction
import Gatehouse.Proofs.Store.Changes

/-!
Ids, over runs of a store.

* `Sound`: accounts and posts stand under their own ids, and what names a user or a role names one that
  is there. `run_sound` says so of every run.
* `run_accountsBelow`: the next id of an account lies above all accounts, as long as the last id is
  nobody's.
* `run_postsBelow`: the next id of a post lies above all posts that there have been, as long as the
  last id was none's.
-/

namespace Gatehouse.Store.Memory

variable {m m' : Memory} {d : Deed}

/-! ### Own ids, roles and edges -/

/-- An account stands under its own id and has one of the three roles. -/
theorem AccountChange.account (change : m.AccountChange d m') (roles : m.roles = seededRoles)
    (before : ∀ id c, m.accounts.find? id = some c → c.user.id = id ∧ c.user.role ∈ seededRoles)
    (id : Int64) (c : Credentials) (found : m'.accounts.find? id = some c) :
    c.user.id = id ∧ c.user.role ∈ seededRoles := by
  cases change with
  | kept accounts _ => exact before id c (accounts ▸ found)
  | activated stood accounts _ =>
    rw [accounts] at found
    rcases Table.find?_insert_eq_some found with ⟨rfl, rfl⟩ | ⟨-, found⟩
    · have inactive := before _ _ stood
      exact inactive
    · exact before id c found
  | opened now _ role accounts _ =>
    rw [accounts] at found
    rcases Table.find?_insert_eq_some found with ⟨rfl, rfl⟩ | ⟨-, found⟩
    · exact ⟨rfl, roles ▸ role⟩
    · exact before id c found
  | put now role accounts _ =>
    rw [accounts] at found
    rcases Table.find?_insert_eq_some found with ⟨rfl, rfl⟩ | ⟨-, found⟩
    · exact ⟨rfl, roles ▸ role⟩
    · exact before id c found

/-- A post stands under its own id. -/
theorem PostChange.post (change : m.PostChange d m')
    (before : ∀ id p, m.posts.find? id = some p → p.id = id) (id : Int64) (p : Post)
    (found : m'.posts.find? id = some p) : p.id = id := by
  cases change with
  | kept posts _ => exact before id p (posts ▸ found)
  | written own posts _ =>
    rw [posts] at found
    rcases Table.find?_insert_eq_some found with ⟨rfl, rfl⟩ | ⟨-, found⟩
    · exact own
    · exact before id p found
  | put own posts _ =>
    rw [posts] at found
    rcases Table.find?_insert_eq_some found with ⟨rfl, rfl⟩ | ⟨-, found⟩
    · exact own
    · exact before id p found
  | changed stood own posts _ =>
    rw [posts] at found
    rcases Table.find?_insert_eq_some found with ⟨rfl, rfl⟩ | ⟨-, found⟩
    · exact own.trans (before id _ stood)
    · exact before id p found
  | deleted gone posts _ =>
    rw [posts] at found
    exact before id p (Table.find?_erase_eq_some found)

/-- Accounts and posts stand under their own ids, every account has one of the three roles, and every edge
leads from one account to another. -/
structure Sound (m : Memory) : Prop where
  roles : m.roles = seededRoles
  account : ∀ id c, m.accounts.find? id = some c → c.user.id = id ∧ c.user.role ∈ seededRoles
  post : ∀ id p, m.posts.find? id = some p → p.id = id
  edge : ∀ e ∈ m.edges, e.user ≠ e.follower ∧ (∃ c, m.accounts.find? e.user = some c) ∧
    ∃ c, m.accounts.find? e.follower = some c

/-- **One more deed** leaves the data sound. -/
theorem Sound.carryOut (sound : m.Sound) (now : Instant) (d : Deed) : (m.carryOut now d).2.Sound where
  roles := (m.carryOut_roles now d).trans sound.roles
  account := (m.carryOut_accountChange now d).account sound.roles sound.account
  post := (m.carryOut_postChange now d).post sound.post
  edge e mem := by
    have kept : ∀ {id : Int64}, (∃ c, m.accounts.find? id = some c) →
        ∃ c, (m.carryOut now d).2.accounts.find? id = some c :=
      fun ⟨_, stood⟩ => m.carryOut_accounts now d stood
    rcases m.carryOut_edge now d mem with old | ⟨other, user, follower⟩
    · obtain ⟨other, user, follower⟩ := sound.edge e old
      exact ⟨other, kept user, kept follower⟩
    · exact ⟨other, kept user, kept follower⟩

theorem sound_seeded : seeded.Sound where
  roles := rfl
  account _ _ found := nomatch found
  post _ _ found := nomatch found
  edge _ mem := nomatch mem

/-- **After every run** the data is sound. -/
theorem run_sound (script : List (Instant × Deed)) : (seeded.run script).2.Sound := by
  induction script using List.reverseRecOn with
  | nil => exact sound_seeded
  | append_singleton script x ih =>
    rw [run_concat]
    exact ih.carryOut x.1 x.2

/-- Every user that is stored stands under its own id. -/
def OwnIds (m : Memory) : Prop := ∀ id u, m.user? id = some u → u.id = id

theorem Sound.ownIds (sound : m.Sound) : m.OwnIds := by
  intro id u stored
  obtain ⟨c, found, rfl⟩ := Option.map_eq_some_iff.mp stored
  exact (sound.account id c found).1

theorem OwnIds.carryOut (own : m.OwnIds) (now : Instant) (d : Deed) : (m.carryOut now d).2.OwnIds := by
  have before : ∀ id c, m.accounts.find? id = some c → c.user.id = id :=
    fun id c stood => own id c.user (congrArg (Option.map _) stood)
  intro id u stored
  obtain ⟨c, found, rfl⟩ := Option.map_eq_some_iff.mp stored
  cases m.carryOut_accountChange now d with
  | kept accounts _ => exact before id c (accounts ▸ found)
  | activated stood accounts _ =>
    rw [accounts] at found
    rcases Table.find?_insert_eq_some found with ⟨rfl, rfl⟩ | ⟨-, found⟩
    · have inactive := before _ _ stood
      exact inactive
    · exact before id c found
  | opened now _ _ accounts _ =>
    rw [accounts] at found
    rcases Table.find?_insert_eq_some found with ⟨rfl, rfl⟩ | ⟨-, found⟩
    · rfl
    · exact before id c found
  | put now _ accounts _ =>
    rw [accounts] at found
    rcases Table.find?_insert_eq_some found with ⟨rfl, rfl⟩ | ⟨-, found⟩
    · rfl
    · exact before id c found

/-! ### Ids that are given out -/

theorem le_maxId (n id : Int64) : n ≤ maxId n id := by
  unfold maxId
  split
  · next below => exact Int64.le_of_lt below
  · exact Int64.le_refl n

theorem maxId_le (n id : Int64) : id ≤ maxId n id := by
  unfold maxId
  split
  · exact Int64.le_refl id
  · next bounded => exact Int64.not_lt.mp bounded

/-- All that stands in a table stands below an id. -/
def Below {α : Type} (t : Table Int64 α) (n : Int64) : Prop := ∀ id a, t.find? id = some a → id < n

section Below

variable {α : Type} {t : Table Int64 α} {n id : Int64} {b : α}

theorem Below.of_le (below : Below t n) {n' : Int64} (grows : n ≤ n') : Below t n' := by
  intro id a found
  exact Int64.lt_of_lt_of_le (below id a found) grows

/-- What is put below the next id stands below it. -/
theorem Below.insert (below : Below t n) (lower : id < n) (a : α) : Below (t.insert id a) n := by
  intro id' a' found
  rcases Table.find?_insert_eq_some found with ⟨rfl, -⟩ | ⟨-, old⟩
  · exact lower
  · exact below id' a' old

theorem Below.erase (below : Below t n) (id : Int64) : Below (t.erase id) n := by
  intro id' a' found
  exact below id' a' (Table.find?_erase_eq_some found)

/-- Up to the last id, what is put under the next one stands below the one after it. -/
theorem Below.insert_next (below : Below t n) {a : α} (more : (t.insert n a).find? Int64.maxValue = none) :
    n < n + 1 ∧ Below (t.insert n a) (n + 1) := by
  have grows : n < n + 1 := by
    refine Int64.lt_add_one ?_
    rintro rfl
    rw [Table.find?_insert, if_pos rfl] at more
    cases more
  exact ⟨grows, (below.of_le (Int64.le_of_lt grows)).insert grows a⟩

/-- Up to the last id, what is put under an id of its own choice stands below the larger one of the next
ids. -/
theorem Below.insert_own (below : Below t n) {a : α} (more : (t.insert id a).find? Int64.maxValue = none) :
    Below (t.insert id a) (maxId n (id + 1)) := by
  have next : id < id + 1 := by
    refine Int64.lt_add_one ?_
    rintro rfl
    rw [Table.find?_insert, if_pos rfl] at more
    cases more
  exact (below.of_le (le_maxId ..)).insert (Int64.lt_of_lt_of_le next (maxId_le ..)) a

end Below

theorem AccountChange.below (change : m.AccountChange d m') (below : Below m.accounts m.nextUserId)
    (more : m'.accounts.find? Int64.maxValue = none) : Below m'.accounts m'.nextUserId := by
  cases change with
  | kept accounts next =>
    rw [accounts, next]
    exact below
  | activated stood accounts next =>
    rw [accounts, next]
    exact below.insert (below _ _ stood) _
  | opened now _ _ accounts next =>
    rw [accounts] at more
    rw [accounts, next]
    exact (below.insert_next more).2
  | put now _ accounts next =>
    rw [accounts] at more
    rw [accounts, next]
    exact below.insert_own more

/-- Accounts are never removed: what is nobody's id has not been anybody's before. -/
theorem find?_eq_none_of_carryOut {now : Instant} {id : Int64}
    (nobody : (m.carryOut now d).2.accounts.find? id = none) : m.accounts.find? id = none := by
  rw [Option.eq_none_iff_forall_ne_some]
  intro c stood
  obtain ⟨c', stands⟩ := m.carryOut_accounts now d stood
  cases nobody.symm.trans stands

/-- **The next id lies above all accounts**, as long as the last id is nobody's. -/
theorem run_accountsBelow (script : List (Instant × Deed))
    (more : (seeded.run script).2.accounts.find? Int64.maxValue = none) :
    Below (seeded.run script).2.accounts (seeded.run script).2.nextUserId := by
  induction script using List.reverseRecOn with
  | nil => exact fun _ _ found => (nomatch found)
  | append_singleton script x ih =>
    rw [run_concat] at more ⊢
    exact (carryOut_accountChange _ x.1 x.2).below (ih (find?_eq_none_of_carryOut more)) more

/-- Under an id, a post has stood at some point of a run. -/
def HadPost (script : List (Instant × Deed)) (id : Int64) : Prop :=
  ∃ before, before <+: script ∧ ∃ p, (seeded.run before).2.posts.find? id = some p

theorem not_hadPost_nil (id : Int64) : ¬ HadPost [] id := by
  rintro ⟨before, prior, p, stood⟩
  obtain rfl := List.prefix_nil.mp prior
  cases stood

theorem hadPost_concat {script : List (Instant × Deed)} {x : Instant × Deed} {id : Int64} :
    HadPost (script ++ [x]) id ↔
      HadPost script id ∨ ∃ p, (seeded.run (script ++ [x])).2.posts.find? id = some p := by
  constructor
  · rintro ⟨before, prior, stood⟩
    rcases List.prefix_concat_iff.mp prior with rfl | prior
    · exact .inr stood
    · exact .inl ⟨before, prior, stood⟩
  · rintro (⟨before, prior, stood⟩ | stands)
    · exact ⟨before, prior.trans (List.prefix_append ..), stood⟩
    · exact ⟨_, List.prefix_rfl, stands⟩

theorem PostChange.below (change : m.PostChange d m') (below : Below m.posts m.nextPostId)
    (more : m'.posts.find? Int64.maxValue = none) :
    m.nextPostId ≤ m'.nextPostId ∧ Below m'.posts m'.nextPostId := by
  cases change with
  | kept posts next =>
    rw [posts, next]
    exact ⟨Int64.le_refl _, below⟩
  | written own posts next =>
    rw [posts] at more
    obtain ⟨grows, below⟩ := below.insert_next more
    rw [posts, next]
    exact ⟨Int64.le_of_lt grows, below⟩
  | put own posts next =>
    rw [posts] at more
    rw [posts, next]
    exact ⟨le_maxId .., below.insert_own more⟩
  | changed stood own posts next =>
    rw [posts, next]
    exact ⟨Int64.le_refl _, below.insert (below _ _ stood) _⟩
  | deleted gone posts next =>
    rw [posts, next]
    exact ⟨Int64.le_refl _, below.erase gone⟩

/-- **The next id lies above all posts that there have been**, as long as the last id was none's. -/
theorem run_postsBelow (script : List (Instant × Deed)) (more : ¬ HadPost script Int64.maxValue) :
    Below (seeded.run script).2.posts (seeded.run script).2.nextPostId ∧
      ∀ id, HadPost script id → id < (seeded.run script).2.nextPostId := by
  induction script using List.reverseRecOn with
  | nil => exact ⟨fun _ _ found => (nomatch found), fun id had => absurd had (not_hadPost_nil id)⟩
  | append_singleton script x ih =>
    obtain ⟨below, before⟩ := ih fun had => more (hadPost_concat.mpr (.inl had))
    have last : (seeded.run (script ++ [x])).2.posts.find? Int64.maxValue = none := by
      rw [Option.eq_none_iff_forall_ne_some]
      intro p stands
      exact more (hadPost_concat.mpr (.inr ⟨p, stands⟩))
    have had : ∀ id, HadPost (script ++ [x]) id → HadPost script id ∨
        ∃ p, (seeded.run (script ++ [x])).2.posts.find? id = some p := fun _ => hadPost_concat.mp
    rw [run_concat] at last had ⊢
    obtain ⟨grows, below⟩ := (carryOut_postChange _ x.1 x.2).below below last
    refine ⟨below, ?_⟩
    intro id stood
    rcases had id stood with stood | ⟨p, stands⟩
    · exact Int64.lt_of_lt_of_le (before id stood) grows
    · exact below id p stands

end Gatehouse.Store.Memory
