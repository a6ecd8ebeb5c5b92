import Mathlib.Logic.Basic
import Gatehouse.Database.Followers
import Gatehouse.Database.Storage
import Gatehouse.Proofs.Table

/-!
Followers in memory and in a database.

In memory it is checked beforehand whether one user can follow another. A database enforces the constraints
of its table, and it is told from the violation that it reports what was wrong. Of the two constraints that
both ends of an edge are users, only the one for the user who is followed is told apart.

* `Violates`, `Enforces`: the constraints, and a server that keeps to them. Which of several violations it
  reports is left open. `enforces_serve` is an instance.
* `Mirrors`: the same users and edges are kept in memory and in the table. `Mirrors.step` is one step of
  both.
* `follower_stores_agree`: any number of steps.
-/

namespace Gatehouse.Database

open Store (Memory Edge)

/-! ### Servers that enforce the constraints of the table -/

namespace Followers

/-- A new edge violates a constraint, which is reported with a code. -/
inductive Violates (t : Followers) (user follower : Int64) : String → String → Prop where
  | self (same : user = follower) : Violates t user follower checkViolation "followers_not_self"
  | twice (stands : ⟨user, follower⟩ ∈ t.edges) : Violates t user follower uniqueViolation "followers_pkey"
  | user (unknown : user ∉ t.users) : Violates t user follower referenceViolation "followers_user_id_fkey"
  | follower (unknown : follower ∉ t.users) :
    Violates t user follower referenceViolation "followers_follower_id_fkey"

variable {σ : Type}

/-- **A server that enforces the constraints of the table.** It takes in a new edge if that violates none of
them, and else reports one that it violates. -/
structure Enforces (server : σ → Statement → Reply × σ) (table : σ → Followers) : Prop where
  inserts : ∀ x user follower, (∀ code constraint, ¬ (table x).Violates user follower code constraint) →
    (∃ n, (server x (.insertFollower user follower)).1 = .done n) ∧
      (table (server x (.insertFollower user follower)).2).users = (table x).users ∧
      ∀ e, e ∈ (table (server x (.insertFollower user follower)).2).edges ↔
        e ∈ (table x).edges ∨ e = ⟨user, follower⟩
  rejects : ∀ x user follower code constraint, (table x).Violates user follower code constraint →
    (∃ code constraint detail, (table x).Violates user follower code constraint ∧
      (server x (.insertFollower user follower)).1 = .failed (.rejected code (some constraint) detail)) ∧
      table (server x (.insertFollower user follower)).2 = table x
  deletes : ∀ x user follower, (∃ n, (server x (.deleteFollower user follower)).1 = .done n) ∧
    (table (server x (.deleteFollower user follower)).2).users = (table x).users ∧
    ∀ e, e ∈ (table (server x (.deleteFollower user follower)).2).edges ↔
      e ∈ (table x).edges ∧ e ≠ ⟨user, follower⟩

/-- The first violation is one, and there is none if no constraint is violated. -/
theorem violates_of_violation? {t : Followers} {user follower : Int64} :
    (∀ code constraint, t.violation? user follower = some (code, constraint) →
      t.Violates user follower code constraint) ∧
    (t.violation? user follower = none → ∀ code constraint, ¬ t.Violates user follower code constraint) := by
  unfold violation?
  split
  · next same => exact ⟨by rintro _ _ ⟨⟩; exact .self same, nofun⟩
  split
  · next stands => exact ⟨by rintro _ _ ⟨⟩; exact .twice (List.contains_iff_mem.mp stands), nofun⟩
  split
  · next unknown => exact ⟨by rintro _ _ ⟨⟩; exact .user (by simpa using unknown), nofun⟩
  split
  · next unknown => exact ⟨by rintro _ _ ⟨⟩; exact .follower (by simpa using unknown), nofun⟩
  next differ new user follower =>
  refine ⟨nofun, fun _ code constraint violates => ?_⟩
  cases violates with
  | self same => exact differ same
  | twice stands => exact new (List.contains_iff_mem.mpr stands)
  | user unknown => exact user (by simpa using unknown)
  | follower unknown => exact follower (by simpa using unknown)

/-- **Reporting the first violation is one way to enforce the constraints.** -/
theorem enforces_serve : Enforces serve id where
  inserts t user follower free := by
    have none' : t.violation? user follower = none := by
      cases violated : t.violation? user follower with
      | none => rfl
      | some v => exact absurd (violates_of_violation?.1 _ _ violated) (free _ _)
    simp only [serve, none', id]
    exact ⟨⟨1, rfl⟩, trivial, fun e => by simp⟩
  rejects t user follower code constraint violates := by
    cases violated : t.violation? user follower with
    | none => exact absurd violates (violates_of_violation?.2 violated _ _)
    | some v =>
      obtain ⟨code', constraint'⟩ := v
      simp only [serve, violated, id]
      exact ⟨⟨code', constraint', "", violates_of_violation?.1 _ _ violated, rfl⟩, trivial⟩
  deletes t user follower := ⟨⟨_, rfl⟩, rfl, fun e => by simp [serve]⟩

end Followers

/-! ### What is asked for -/

/-- What can be asked for: that one user follows another, or follows it no longer. -/
inductive Asking where
  | follow (follower user : Int64)
  | unfollow (follower user : Int64)

namespace Asking

/-- It is done in memory. -/
def inMemory (now : Instant) (m : Memory) : Asking → Except Store.Error Unit × Memory
  | .follow follower user => m.perform now (.follow follower user)
  | .unfollow follower user => m.perform now (.unfollow follower user)

variable {σ : Type}

/-- It is done in a database. -/
def inDatabase (limit : Duration) (server : σ → Statement → Reply × σ) (x : σ) :
    Asking → Except Store.Error Unit × σ
  | .follow follower user =>
    let (r, _, x) := (perform limit (.follow follower user)).run server x
    (r, x)
  | .unfollow follower user =>
    let (r, _, x) := (perform limit (.unfollow follower user)).run server x
    (r, x)

/-- One thing after the other is asked for: all that is answered, first answer first, and what is kept after
that. -/
def answers (step : σ → Asking → Except Store.Error Unit × σ) :
    σ → List Asking → List (Except Store.Error Unit) × σ
  | x, [] => ([], x)
  | x, a :: asked =>
    let (r, x) := step x a
    let (rs, x) := answers step x asked
    (r :: rs, x)

/-- Somebody who is not known as a user wants to follow somebody else. -/
inductive IsOfStranger (users : List Int64) : Asking → Prop where
  | follow {follower user : Int64} (differ : follower ≠ user) (unknown : follower ∉ users) :
    IsOfStranger users (.follow follower user)

/-- How the answers from memory and from the database compare. They are the same, unless it is a stranger who
asks. In memory, there is no such user then. The database says the same only if nobody is known whom the
stranger wants to follow, and may say that the constraint is violated that the follower is a user. -/
inductive Compares (users : List Int64) :
    Asking → Except Store.Error Unit → Except Store.Error Unit → Prop where
  | same {a : Asking} (r : Except Store.Error Unit) (known : ¬ a.IsOfStranger users) : Compares users a r r
  | neither {follower user : Int64} (differ : follower ≠ user) (unknown : follower ∉ users)
    (nobody : user ∉ users) :
    Compares users (.follow follower user) (.error .notFound) (.error .notFound)
  | violation {follower user : Int64} (differ : follower ≠ user) (unknown : follower ∉ users)
    (detail : String) :
    Compares users (.follow follower user) (.error .notFound)
      (.error (.database (.rejected referenceViolation (some "followers_follower_id_fkey") detail)))

/-- Unless a stranger asks, the answers are the same. -/
theorem Compares.eq {users : List Int64} {a : Asking} {r r' : Except Store.Error Unit}
    (compares : a.Compares users r r') (known : ¬ a.IsOfStranger users) : r = r' := by
  cases compares with
  | same r _ => rfl
  | neither differ unknown _ => rfl
  | violation differ unknown detail => exact absurd (.follow differ unknown) known

end Asking

/-! ### Steps -/

open Asking (inMemory inDatabase answers Compares)

/-- The same users and edges are kept in memory and in a table, and the ends of the edges are users. -/
structure Mirrors (m : Memory) (t : Followers) : Prop where
  users : ∀ id, m.accounts.contains id = true ↔ id ∈ t.users
  edges : ∀ e, e ∈ m.edges ↔ e ∈ t.edges
  ends : ∀ e ∈ t.edges, e.user ∈ t.users ∧ e.follower ∈ t.users

/-- Both ends of an edge are found in memory if they are users in the table. -/
theorem Mirrors.known_iff {m : Memory} {t : Followers} (mirrors : Mirrors m t) (user follower : Int64) :
    (m.accounts.contains user && m.accounts.contains follower) = true ↔
      user ∈ t.users ∧ follower ∈ t.users := by
  rw [Bool.and_eq_true_iff, mirrors.users, mirrors.users]

/-- An edge stands in memory if it stands in the table. -/
theorem Mirrors.isFollowing_iff {m : Memory} {t : Followers} (mirrors : Mirrors m t)
    (user follower : Int64) : m.isFollowing follower user = true ↔ ⟨user, follower⟩ ∈ t.edges :=
  List.contains_iff_mem.trans (mirrors.edges _)

/-- A call that is one statement is answered as its reply decides. -/
theorem result_execute (limit : Duration) (s : Statement) :
    Query.result (do
      let _ ← Query.execute limit s
      return ()) =
      .send s fun r => .done (((Query.outcome limit r).mapError (·.error)).map fun _ => ()) := by
  show Talk.send s _ = _
  congr 1
  funext r
  cases r <;> rfl

section

variable {σ : Type} {server : σ → Statement → Reply × σ} {table : σ → Followers} {m : Memory} {x : σ}
  {limit : Duration} {now : Instant} {follower user : Int64}

/-- In the database, following is one statement, and its reply decides on the answer. -/
theorem inDatabase_follow (differ : follower ≠ user) :
    inDatabase limit server x (.follow follower user) =
      (((Query.outcome limit (server x (.insertFollower user follower)).1).mapError (·.error)).map fun _ => (),
        (server x (.insertFollower user follower)).2) := by
  simp only [inDatabase, perform, if_neg differ]
  rw [result_execute]
  rfl

/-- So is following no longer. -/
theorem inDatabase_unfollow (differ : follower ≠ user) :
    inDatabase limit server x (.unfollow follower user) =
      (((Query.outcome limit (server x (.deleteFollower user follower)).1).mapError (·.error)).map fun _ => (),
        (server x (.deleteFollower user follower)).2) := by
  simp only [inDatabase, perform, if_neg differ]
  rw [result_execute]
  rfl

/-- What has been asked for in memory and in the database: the answers compare, the same is kept, and nobody
has come or gone. -/
structure Alike (t : Followers) (a : Asking) (here : Except Store.Error Unit × Memory)
    (there : Except Store.Error Unit × Followers) : Prop where
  compares : a.Compares t.users here.1 there.1
  mirrors : Mirrors here.2 there.2
  users : there.2.users = t.users

/-- What an asking comes to in the database, with the table after it. -/
def inTable (limit : Duration) (server : σ → Statement → Reply × σ) (table : σ → Followers) (x : σ)
    (a : Asking) : Except Store.Error Unit × Followers :=
  ((inDatabase limit server x a).1, table (inDatabase limit server x a).2)

/-- What both refuse in the same way leaves both as they are. -/
theorem Mirrors.refused (mirrors : Mirrors m (table x)) {a : Asking} {e : Store.Error}
    (known : ¬ a.IsOfStranger (table x).users) (here : inMemory now m a = (.error e, m))
    (there : inTable limit server table x a = (.error e, table x)) :
    Alike (table x) a (inMemory now m a) (inTable limit server table x a) := by
  rw [here, there]
  exact ⟨.same _ known, mirrors, rfl⟩

/-- Nobody follows itself. -/
theorem Mirrors.self (mirrors : Mirrors m (table x)) {a : Asking}
    (own : a = .follow user user ∨ a = .unfollow user user) :
    Alike (table x) a (inMemory now m a) (inTable limit server table x a) := by
  rcases own with rfl | rfl
  · refine mirrors.refused (fun | .follow differ _ => differ rfl) (if_pos rfl) ?_
    simp only [inTable, inDatabase, perform, if_true]
    rfl
  · refine mirrors.refused nofun (if_pos rfl) ?_
    simp only [inTable, inDatabase, perform, if_true]
    rfl

section Differ

variable (enforces : Followers.Enforces server table) (differ : follower ≠ user)
include enforces differ

/-- A violation is reported in the database, and the table stays as it is. -/
theorem Followers.Enforces.refuses {code constraint : String}
    (violated : (table x).Violates user follower code constraint) :
    ∃ code constraint detail, (table x).Violates user follower code constraint ∧
      inTable limit server table x (.follow follower user) =
        (.error (storeError (.rejected code (some constraint) detail)), table x) := by
  obtain ⟨⟨code, constraint, detail, violates, reply⟩, kept⟩ := enforces.rejects x user follower _ _ violated
  refine ⟨code, constraint, detail, violates, ?_⟩
  rw [inTable, inDatabase_follow differ, reply, kept]
  rfl

variable (mirrors : Mirrors m (table x))
include mirrors

/-- A new edge between users is put down. -/
theorem Mirrors.follow_new (known : user ∈ (table x).users ∧ follower ∈ (table x).users)
    (new : ⟨user, follower⟩ ∉ (table x).edges) :
    Alike (table x) (.follow follower user) (inMemory now m (.follow follower user))
      (inTable limit server table x (.follow follower user)) := by
  have follows : ¬ m.isFollowing follower user = true := fun follows =>
    new ((mirrors.isFollowing_iff ..).mp follows)
  have here : inMemory now m (.follow follower user) =
      (.ok (), { m with edges := m.edges ++ [⟨user, follower⟩] }) := by
    show m.follow follower user = _
    rw [Memory.follow, if_neg differ, if_pos ((mirrors.known_iff ..).mpr known), if_neg follows]
  obtain ⟨⟨n, reply⟩, users, edges⟩ := enforces.inserts x user follower fun code constraint violates => by
    cases violates with
    | self same => exact differ same.symm
    | twice stands => exact new stands
    | user unknown => exact unknown known.1
    | follower unknown => exact unknown known.2
  rw [here, inTable, inDatabase_follow differ, reply]
  refine ⟨.same _ fun | .follow _ unknown => unknown known.2, ⟨?_, ?_, ?_⟩, users⟩
  · exact fun id => users ▸ mirrors.users id
  · intro e
    rw [edges, List.mem_append, List.mem_singleton, mirrors.edges]
  · intro e mem
    rw [users]
    rcases (edges e).mp mem with mem | rfl
    · exact mirrors.ends e mem
    · exact known

/-- An edge that stands is not put down once more. -/
theorem Mirrors.follow_twice (stands : ⟨user, follower⟩ ∈ (table x).edges) :
    Alike (table x) (.follow follower user) (inMemory now m (.follow follower user))
      (inTable limit server table x (.follow follower user)) := by
  have known : user ∈ (table x).users ∧ follower ∈ (table x).users := mirrors.ends _ stands
  have here : inMemory now m (.follow follower user) = (.error (.conflict "follow"), m) := by
    show m.follow follower user = _
    rw [Memory.follow, if_neg differ, if_pos ((mirrors.known_iff ..).mpr known),
      if_pos ((mirrors.isFollowing_iff ..).mpr stands)]
  obtain ⟨code, constraint, detail, violates, there⟩ := enforces.refuses differ (.twice stands)
  refine mirrors.refused (fun | .follow _ unknown => unknown known.2) here ?_
  cases violates with
  | self same => exact absurd same.symm differ
  | twice _ => exact there
  | user unknown => exact absurd known.1 unknown
  | follower unknown => exact absurd known.2 unknown

/-- An edge one of whose ends is no user is not put down. -/
theorem Mirrors.follow_unknown (unknown : ¬ (user ∈ (table x).users ∧ follower ∈ (table x).users)) :
    Alike (table x) (.follow follower user) (inMemory now m (.follow follower user))
      (inTable limit server table x (.follow follower user)) := by
  have here : inMemory now m (.follow follower user) = (.error .notFound, m) := by
    show m.follow follower user = _
    rw [Memory.follow, if_neg differ, if_neg (mt (mirrors.known_iff ..).mp unknown)]
  obtain ⟨code, constraint, violated⟩ :
      ∃ code constraint, (table x).Violates user follower code constraint := by
    by_cases mem : user ∈ (table x).users
    · exact ⟨_, _, .follower fun mem' => unknown ⟨mem, mem'⟩⟩
    · exact ⟨_, _, .user mem⟩
  obtain ⟨code, constraint, detail, violates, there⟩ := enforces.refuses differ violated
  rw [here, there]
  refine ⟨?_, mirrors, rfl⟩
  cases violates with
  | self same => exact absurd same.symm differ
  | twice stands => exact absurd (mirrors.ends _ stands) unknown
  | user nobody =>
    by_cases stranger : follower ∈ (table x).users
    · exact .same _ fun | .follow _ unknown => unknown stranger
    · exact .neither differ stranger nobody
  | follower nobody => exact .violation differ nobody detail

/-- An edge is taken away, whether it stands or not. -/
theorem Mirrors.unfollow :
    Alike (table x) (.unfollow follower user) (inMemory now m (.unfollow follower user))
      (inTable limit server table x (.unfollow follower user)) := by
  have here : inMemory now m (.unfollow follower user) =
      (.ok (), { m with edges := m.edges.filter (· ≠ ⟨user, follower⟩) }) := if_neg differ
  obtain ⟨⟨n, reply⟩, users, edges⟩ := enforces.deletes x user follower
  rw [here, inTable, inDatabase_unfollow differ, reply]
  refine ⟨.same _ nofun, ⟨?_, ?_, ?_⟩, users⟩
  · exact fun id => users ▸ mirrors.users id
  · intro e
    rw [edges, List.mem_filter, mirrors.edges, decide_eq_true_eq]
  · intro e mem
    rw [users]
    exact mirrors.ends e ((edges e).mp mem).1

end Differ

/-- **Whatever is asked for**, the answers compare, and the same is kept. -/
theorem Mirrors.step (enforces : Followers.Enforces server table) (mirrors : Mirrors m (table x))
    (now : Instant) (limit : Duration) (a : Asking) :
    Alike (table x) a (inMemory now m a) (inTable limit server table x a) := by
  cases a with
  | follow follower user =>
    by_cases same : follower = user
    · subst same
      exact mirrors.self (.inl rfl)
    by_cases known : user ∈ (table x).users ∧ follower ∈ (table x).users
    · by_cases stands : ⟨user, follower⟩ ∈ (table x).edges
      · exact mirrors.follow_twice enforces same stands
      · exact mirrors.follow_new enforces same known stands
    · exact mirrors.follow_unknown enforces same known
  | unfollow follower user =>
    by_cases same : follower = user
    · subst same
      exact mirrors.self (.inr rfl)
    · exact mirrors.unfollow enforces same

/-! ### Any number of steps -/

/-- However much is asked for, the same is kept, and nobody comes or goes. -/
theorem Mirrors.run (enforces : Followers.Enforces server table) (mirrors : Mirrors m (table x))
    (now : Instant) (limit : Duration) (asked : List Asking) :
    Mirrors (answers (inMemory now) m asked).2 (table (answers (inDatabase limit server) x asked).2) ∧
      (table (answers (inDatabase limit server) x asked).2).users = (table x).users := by
  induction asked generalizing m x with
  | nil => exact ⟨mirrors, rfl⟩
  | cons a asked ih =>
    have alike := mirrors.step enforces now limit a
    obtain ⟨kept, users⟩ := ih alike.mirrors
    exact ⟨kept, users.trans alike.users⟩

/-- If no stranger asks, all answers are the same. -/
theorem Mirrors.answers_eq (enforces : Followers.Enforces server table) (mirrors : Mirrors m (table x))
    (now : Instant) (limit : Duration) {asked : List Asking}
    (known : ∀ a ∈ asked, ¬ a.IsOfStranger (table x).users) :
    (answers (inMemory now) m asked).1 = (answers (inDatabase limit server) x asked).1 := by
  induction asked generalizing m x with
  | nil => rfl
  | cons a asked ih =>
    have alike := mirrors.step enforces now limit a
    have later := ih alike.mirrors fun a mem => alike.users ▸ known a (.tail _ mem)
    exact congrArg₂ List.cons (alike.compares.eq (known a (.head _))) later

/-- **Followers in memory and in a database.** Take a server that enforces the constraints of the table, a
memory and a table with the same users and the same edges between them, and any list of what is asked for, by
anybody and for anybody. -/
theorem follower_stores_agree (enforces : Followers.Enforces server table) (mirrors : Mirrors m (table x))
    (now : Instant) (limit : Duration) (asked : List Asking) :
    -- In the end the same edges are kept.
    (∀ e, e ∈ (answers (inMemory now) m asked).2.edges ↔
      e ∈ (table (answers (inDatabase limit server) x asked).2).edges) ∧
    -- All answers are the same, unless a stranger asks to follow somebody else.
    ((∀ a ∈ asked, ¬ a.IsOfStranger (table x).users) →
      (answers (inMemory now) m asked).1 = (answers (inDatabase limit server) x asked).1) ∧
    -- If a stranger does, that answer may differ, and no other one.
    ∀ before a after, asked = before ++ a :: after →
      a.Compares (table x).users (inMemory now (answers (inMemory now) m before).2 a).1
        (inDatabase limit server (answers (inDatabase limit server) x before).2 a).1 := by
  refine ⟨(mirrors.run enforces now limit asked).1.edges, mirrors.answers_eq enforces now limit, ?_⟩
  rintro before a after -
  obtain ⟨kept, users⟩ := mirrors.run enforces now limit before
  exact users ▸ (kept.step enforces now limit a).compares

end

/-- A user follows another one, twice, and then no longer. -/
theorem follower_stores_agree_pair :
    let role : Role := ⟨1, "user", "", 1⟩
    let user (id : Int64) : Credentials := ⟨⟨id, "", "", role, true, default⟩, ""⟩
    let m : Memory := { Memory.seeded with accounts := ⟨[(1, user 1), (2, user 2)]⟩ }
    let t : Followers := ⟨[1, 2], []⟩
    let asked : List Asking := [.follow 2 1, .follow 2 1, .unfollow 2 1]
    (Followers.Enforces Followers.serve id ∧ Mirrors m t ∧ ∀ a ∈ asked, ¬ a.IsOfStranger t.users) ∧
      (answers (inMemory default) m asked).1 = [.ok (), .error (.conflict "follow"), .ok ()] ∧
      (answers (inDatabase default Followers.serve) t asked).1 =
        [.ok (), .error (.conflict "follow"), .ok ()] := by
  intro role user m t asked
  have mirrors : Mirrors m t := by
    refine ⟨fun id => ?_, fun e => Iff.rfl, fun e mem => nomatch mem⟩
    rw [Table.contains, Option.isSome_iff_exists, ← Table.mem_keys_iff]
    exact Iff.rfl
  have known : ∀ a ∈ asked, ¬ a.IsOfStranger t.users := by
    rintro a mem ⟨differ, unknown⟩
    simp [asked, t] at mem unknown
    simp_all
  have here : (answers (inMemory default) m asked).1 = [.ok (), .error (.conflict "follow"), .ok ()] := by
    decide
  have enforces : Followers.Enforces Followers.serve id := Followers.enforces_serve
  obtain ⟨-, agree, -⟩ := follower_stores_agree enforces mirrors default default asked
  exact ⟨⟨enforces, mirrors, known⟩, here, (agree known).symm.trans here⟩

/-- A stranger wants to follow a user: in memory it is not found, and the database reports a failure of its
own. -/
theorem follower_stores_agree_stranger :
    let role : Role := ⟨1, "user", "", 1⟩
    let m : Memory := { Memory.seeded with accounts := ⟨[(1, ⟨⟨1, "", "", role, true, default⟩, ""⟩)]⟩ }
    let t : Followers := ⟨[1], []⟩
    Followers.Enforces Followers.serve id ∧ Mirrors m t ∧
      (inMemory default m (.follow 2 1)).1 = .error .notFound ∧
      (inDatabase default Followers.serve t (.follow 2 1)).1 = .error (.database
        (.rejected referenceViolation (some "followers_follower_id_fkey") "")) := by
  intro role m t
  have mirrors : Mirrors m t := by
    refine ⟨fun id => ?_, fun e => Iff.rfl, fun e mem => nomatch mem⟩
    rw [Table.contains, Option.isSome_iff_exists, ← Table.mem_keys_iff]
    exact Iff.rfl
  exact ⟨Followers.enforces_serve, mirrors, by decide, by decide⟩

end Gatehouse.Database
