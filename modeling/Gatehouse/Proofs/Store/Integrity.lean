import Gatehouse.Proofs.Store.Invitations
import Gatehouse.Proofs.Store.Numbering

/-!
What is true of the data after every run of a store.

* `Distinct`: no two accounts share a name or an address. `run_distinct` says so of every run in which
  accounts are put only where nobody is.
* `credentials_eq_ok_iff`: then credentials are those of the one account with an address.
* `run_registrations`: then at most one registration succeeds for a name and for an address.
* `run_integrity`: all that is true of the data, of the ids that are given out, and of registrations.
-/

namespace Gatehouse.Store

/-- A registration has succeeded, for a newcomer. -/
def Record.Registers (r : Record) (n : Newcomer) : Prop :=
  ∃ now i u, r = ⟨now, .call (.createAndInvite n i), .ok u⟩

/-- No two accounts share a name or an address. -/
def Distinct (accounts : Table Int64 Credentials) : Prop :=
  ∀ id id' c c', accounts.find? id = some c → accounts.find? id' = some c' →
    c.user.username = c'.user.username ∨ c.user.email = c'.user.email → id = id'

/-- A name and an address are nobody's. -/
def Unused (accounts : Table Int64 Credentials) (username email : String) : Prop :=
  ∀ id c, accounts.find? id = some c → c.user.username ≠ username ∧ c.user.email ≠ email

/-- An account with a new name and a new address shares neither. -/
theorem Distinct.insert {accounts : Table Int64 Credentials} (distinct : Distinct accounts) {id : Int64}
    {c : Credentials} (unused : Unused accounts c.user.username c.user.email) :
    Distinct (accounts.insert id c) := by
  intro k k' a a' found found' same
  rcases Table.find?_insert_eq_some found with ⟨rfl, rfl⟩ | ⟨-, old⟩
  · rcases Table.find?_insert_eq_some found' with ⟨rfl, rfl⟩ | ⟨-, old'⟩
    · rfl
    · obtain ⟨username, email⟩ := unused k' a' old'
      exact (same.elim (username ∘ Eq.symm) (email ∘ Eq.symm)).elim
  · rcases Table.find?_insert_eq_some found' with ⟨rfl, rfl⟩ | ⟨-, old'⟩
    · obtain ⟨username, email⟩ := unused k a old
      exact (same.elim username email).elim
    · exact distinct k k' a a' old old' same

namespace Memory

variable {m m' : Memory} {d : Deed}

/-! ### Names and addresses -/

/-- An account is put where nobody is, and under a name and an address that nobody has. -/
def Fresh (m : Memory) : Deed → Prop
  | .insertUser id username _ _ _ =>
    m.accounts.find? id = none ∧ Unused m.accounts username (username ++ "@agora.test")
  | _ => True

/-- So are all accounts that are put in a run. -/
def AlwaysFresh (script : List (Instant × Deed)) : Prop :=
  ∀ before x, before ++ [x] <+: script → (seeded.run before).2.Fresh x.2

theorem alwaysFresh_nil : AlwaysFresh [] := by
  intro before x prior
  cases List.append_eq_nil_iff.mp (List.prefix_nil.mp prior) |>.2

theorem alwaysFresh_concat {script : List (Instant × Deed)} {x : Instant × Deed} :
    AlwaysFresh (script ++ [x]) ↔ AlwaysFresh script ∧ (seeded.run script).2.Fresh x.2 := by
  constructor
  · intro fresh
    exact ⟨fun before y prior => fresh before y (prior.trans (List.prefix_append ..)),
      fresh script x List.prefix_rfl⟩
  · rintro ⟨fresh, now⟩ before y prior
    rcases List.prefix_concat_iff.mp prior with same | prior
    · obtain ⟨rfl, last⟩ := List.append_inj' same rfl
      obtain rfl := List.singleton_inj.mp last
      exact now
    · exact fresh before y prior

/-- A newcomer's name and address are unused if no account has them. -/
theorem unused_of_values {username email : String}
    (unused : ∀ c ∈ m.accounts.values, c.user.email ≠ email ∧ c.user.username ≠ username) :
    Unused m.accounts username email := by
  intro id c found
  exact (unused c (List.mem_map.mpr ⟨_, Table.mem_of_find? found, rfl⟩)).symm

theorem AccountChange.distinct (change : m.AccountChange d m') (fresh : m.Fresh d)
    (distinct : Distinct m.accounts) : Distinct m'.accounts := by
  cases change with
  | kept accounts _ => exact accounts ▸ distinct
  | activated stood accounts _ =>
    -- Every account has the name and the address that it had before.
    have before : ∀ id c, m'.accounts.find? id = some c → ∃ a, m.accounts.find? id = some a ∧
        a.user.username = c.user.username ∧ a.user.email = c.user.email := by
      intro id c found
      rw [accounts] at found
      rcases Table.find?_insert_eq_some found with ⟨rfl, rfl⟩ | ⟨-, found⟩
      · exact ⟨_, stood, rfl, rfl⟩
      · exact ⟨c, found, rfl, rfl⟩
    intro id id' c c' found found' same
    obtain ⟨a, stood, username, email⟩ := before id c found
    obtain ⟨a', stood', username', email'⟩ := before id' c' found'
    rw [← username, ← username', ← email, ← email'] at same
    exact distinct id id' a a' stood stood' same
  | opened now unused _ accounts _ =>
    rw [accounts]
    exact distinct.insert (unused_of_values unused)
  | put now _ accounts _ =>
    rw [accounts]
    exact distinct.insert fresh.2

/-- **No two accounts share a name or an address**, if accounts are put only where nobody is. -/
theorem run_distinct (script : List (Instant × Deed)) (fresh : AlwaysFresh script) :
    Distinct (seeded.run script).2.accounts := by
  induction script using List.reverseRecOn with
  | nil => exact fun _ _ _ _ found => (nomatch found)
  | append_singleton script x ih =>
    obtain ⟨before, now⟩ := alwaysFresh_concat.mp fresh
    rw [run_concat]
    exact (carryOut_accountChange _ x.1 x.2).distinct now (ih before)

theorem run_apart (script : List (Instant × Deed)) : (seeded.run script).2.accounts.Apart := by
  induction script using List.reverseRecOn with
  | nil => exact Table.apart_empty
  | append_singleton script x ih =>
    obtain ⟨now, d⟩ := x
    rw [run_concat]
    cases carryOut_accountChange (seeded.run script).2 now d with
    | kept accounts _ => exact accounts ▸ ih
    | activated _ accounts _ => exact accounts ▸ ih.insert ..
    | opened _ _ _ accounts _ => exact accounts ▸ ih.insert ..
    | put _ _ accounts _ => exact accounts ▸ ih.insert ..

/-- **Credentials are those of the one account with an address**, in whatever order accounts are gone
through. -/
theorem credentials_eq_ok_iff (apart : m.accounts.Apart) (distinct : Distinct m.accounts) {email : String}
    {c : Credentials} :
    (m.credentials email).1 = .ok c ↔ ∃ id, m.accounts.find? id = some c ∧ c.user.email = email := by
  have stands : ∀ c ∈ m.accounts.values, ∃ id, m.accounts.find? id = some c := by
    intro c mem
    obtain ⟨⟨id, c⟩, entry, rfl⟩ := List.mem_map.mp mem
    exact ⟨id, apart.find?_of_mem entry⟩
  have answered : (m.credentials email).1 = .ok c ↔
      m.accounts.values.find? (fun c => c.user.email = email) = some c := by
    unfold credentials answer
    split
    · next c' found => simp [found]
    · next missing => simp [missing]
  rw [answered]
  constructor
  · intro found
    obtain ⟨id, stood⟩ := stands c (List.mem_of_find?_eq_some found)
    exact ⟨id, stood, by simpa using List.find?_some found⟩
  · rintro ⟨id, stood, rfl⟩
    have mem : c ∈ m.accounts.values := List.mem_map.mpr ⟨_, Table.mem_of_find? stood, rfl⟩
    cases first : m.accounts.values.find? (fun a => a.user.email = c.user.email) with
    | none =>
      have := List.find?_eq_none.mp first c mem
      simp at this
    | some a =>
      obtain ⟨id', stood'⟩ := stands a (List.mem_of_find?_eq_some first)
      have email : a.user.email = c.user.email := by simpa using List.find?_some first
      obtain rfl := distinct id' id a c stood' stood (.inr email)
      exact stood'.symm.trans stood

/-! ### Registrations -/

/-- An account keeps its name and its address, unless another one is put in its place. -/
theorem AccountChange.keepsNames (change : m.AccountChange d m') (fresh : m.Fresh d)
    (below : Below m.accounts m.nextUserId) {id : Int64} {c : Credentials} (stood : m.accounts.find? id = some c) :
    ∃ c', m'.accounts.find? id = some c' ∧ c'.user.username = c.user.username ∧
      c'.user.email = c.user.email := by
  cases change with
  | kept accounts _ => exact ⟨c, accounts ▸ stood, rfl, rfl⟩
  | @activated _ _ id' a active accounts _ =>
    rw [accounts, Table.find?_insert]
    split
    · next same =>
      subst same
      cases active.symm.trans stood
      exact ⟨_, rfl, rfl, rfl⟩
    · exact ⟨c, stood, rfl, rfl⟩
  | opened now _ _ accounts _ =>
    have other : m.nextUserId ≠ id := fun same => Int64.lt_irrefl (same ▸ below id c stood)
    rw [accounts, Table.find?_insert, if_neg other]
    exact ⟨c, stood, rfl, rfl⟩
  | @put id' _ _ _ _ _ _ now _ accounts _ =>
    have other : id' ≠ id := by
      rintro rfl
      cases fresh.1.symm.trans stood
    rw [accounts, Table.find?_insert, if_neg other]
    exact ⟨c, stood, rfl, rfl⟩

/-- What a record of a registration that has succeeded tells. -/
theorem createAndInvite_of_registers {now : Instant} {n : Newcomer}
    (registers : Record.Registers ⟨now, d, (m.carryOut now d).1⟩ n) :
    ∃ i u, m.createAndInvite now n i = (.ok u, (m.carryOut now d).2) := by
  obtain ⟨now', i, u, same⟩ := registers
  generalize answer : (m.carryOut now d).1 = result at same
  cases same
  exact ⟨i, u, Prod.ext answer rfl⟩

/-- For every registration that has succeeded there is an account. -/
def Enrolled (log : List Record) (m : Memory) : Prop :=
  ∀ r ∈ log, ∀ n, r.Registers n →
    ∃ id c, m.accounts.find? id = some c ∧ c.user.username = n.username ∧ c.user.email = n.email

/-- **At most one registration succeeds** for a name and for an address, as long as the last id is
nobody's and accounts are put only where nobody is. -/
theorem run_registrations (script : List (Instant × Deed)) (fresh : AlwaysFresh script)
    (more : (seeded.run script).2.accounts.find? Int64.maxValue = none) :
    Enrolled (seeded.run script).1 (seeded.run script).2 ∧
      (seeded.run script).1.Pairwise fun r r' => ∀ n n', r.Registers n → r'.Registers n' →
        n.username ≠ n'.username ∧ n.email ≠ n'.email := by
  induction script using List.reverseRecOn with
  | nil => exact ⟨fun _ mem => (nomatch mem), .nil⟩
  | append_singleton script x ih =>
    obtain ⟨before, now⟩ := alwaysFresh_concat.mp fresh
    have moreBefore : (seeded.run script).2.accounts.find? Int64.maxValue = none := by
      rw [run_concat] at more
      exact find?_eq_none_of_carryOut more
    obtain ⟨enrolled, pairwise⟩ := ih before moreBefore
    have below := run_accountsBelow script moreBefore
    rw [run_concat]
    generalize seeded.run script = s at enrolled pairwise now below ⊢
    obtain ⟨log, m⟩ := s
    have change := m.carryOut_accountChange x.1 x.2
    simp only [carryOn] at enrolled pairwise now below change ⊢
    have kept : ∀ r ∈ log, ∀ n, r.Registers n →
        ∃ id c, (m.carryOut x.1 x.2).2.accounts.find? id = some c ∧
          c.user.username = n.username ∧ c.user.email = n.email := by
      intro r mem n registers
      obtain ⟨id, c, stood, username, email⟩ := enrolled r mem n registers
      obtain ⟨c', stands, username', email'⟩ := change.keepsNames now below stood
      exact ⟨id, c', stands, username'.trans username, email'.trans email⟩
    constructor
    · intro r mem n registers
      rcases List.mem_append.mp mem with mem | mem
      · exact kept r mem n registers
      · obtain rfl := List.mem_singleton.mp mem
        obtain ⟨i, u, opens⟩ := createAndInvite_of_registers registers
        obtain ⟨-, -, role, -, rfl, same⟩ := createAndInvite_eq_ok.mp opens
        rw [same]
        exact ⟨_, _, Table.find?_insert_self .., rfl, rfl⟩
    · refine List.pairwise_append.mpr ⟨pairwise, List.pairwise_singleton .., ?_⟩
      intro r mem r' mem' n n' registers registers'
      obtain rfl := List.mem_singleton.mp mem'
      obtain ⟨id, c, stood, username, email⟩ := enrolled r mem n registers
      obtain ⟨i, u, opens⟩ := createAndInvite_of_registers registers'
      obtain ⟨emails, usernames, -⟩ := createAndInvite_eq_ok.mp opens
      have mem : c ∈ m.accounts.values := List.mem_map.mpr ⟨_, Table.mem_of_find? stood, rfl⟩
      exact ⟨username ▸ usernames c mem, email ▸ emails c mem⟩

/-! ### All of it -/

/-- An account that is opened stands under the next id, and all others as before. -/
theorem createAndInvite_new (below : Below m.accounts m.nextUserId) {now : Instant} {n : Newcomer}
    {i : Invitation} {u : User} (opens : m.createAndInvite now n i = (.ok u, m')) :
    m.accounts.find? u.id = none ∧
      ∀ id c, m.accounts.find? id = some c → m'.accounts.find? id = some c := by
  obtain ⟨-, -, role, -, rfl, rfl⟩ := createAndInvite_eq_ok.mp opens
  constructor
  · rw [Option.eq_none_iff_forall_ne_some]
    intro c stood
    exact Int64.lt_irrefl (below _ c stood)
  · intro id c stood
    have other : m.nextUserId ≠ id := fun same => Int64.lt_irrefl (same ▸ below id c stood)
    exact (Table.find?_insert_of_ne other ..).trans stood

/-- **The integrity of the data.** Take any run of a store that began with the three roles and nothing
else, in which deeds of all kinds are carried out in any order. -/
theorem run_integrity (script : List (Instant × Deed)) :
    let (log, m) := seeded.run script
    -- Accounts and posts stand under their own ids, no edge leads from a user to itself, and the users,
    -- accounts and roles that are named are there.
    (m.Sound ∧ ∀ d p, m.invitations.find? d = some p → ∃ c, m.accounts.find? p.userId = some c) ∧
    -- As long as the last id is nobody's, the next one lies above all accounts, and an account that is
    -- opened has an id that nobody has, and takes nobody's place.
    (m.accounts.find? Int64.maxValue = none →
      (∀ id c, m.accounts.find? id = some c → id < m.nextUserId) ∧
      ∀ now n i u m', m.createAndInvite now n i = (.ok u, m') →
        m.accounts.find? u.id = none ∧
          ∀ id c, m.accounts.find? id = some c → m'.accounts.find? id = some c) ∧
    -- As long as no post has had the last id, the next one lies above those of all posts that there have
    -- been, and a post that is written has an id that no post has had, and takes no post's place.
    (¬ HadPost script Int64.maxValue →
      (∀ id, HadPost script id → id < m.nextPostId) ∧
      ∀ now draft, ∃ p m', m.createPost now draft = (.ok p, m') ∧ ¬ HadPost script p.id ∧
        ∀ id q, m.posts.find? id = some q → m'.posts.find? id = some q) ∧
    -- Say that accounts have been put only where nobody was. Then no two accounts share a name or an
    -- address, credentials are those of the one account with an address, and no two registrations have
    -- succeeded for one name or one address, as long as the last id is nobody's.
    (AlwaysFresh script →
      Distinct m.accounts ∧
      (∀ email c, (m.credentials email).1 = .ok c ↔
        ∃ id, m.accounts.find? id = some c ∧ c.user.email = email) ∧
      (m.accounts.find? Int64.maxValue = none →
        log.Pairwise fun r r' => ∀ n n', r.Registers n → r'.Registers n' →
          n.username ≠ n'.username ∧ n.email ≠ n'.email)) := by
  have sound := run_sound script
  have pending := (run_agrees (m := seeded) rfl script).account
  have below := run_accountsBelow script
  have written := run_postsBelow script
  have distinct := run_distinct script
  have apart := run_apart script
  have registrations := run_registrations script
  generalize seeded.run script = s at sound pending below written distinct apart registrations ⊢
  obtain ⟨log, m⟩ := s
  refine ⟨⟨sound, pending⟩, ?_, ?_, ?_⟩
  · intro more
    exact ⟨below more, fun now n i u m' opens => createAndInvite_new (below more) opens⟩
  · intro more
    refine ⟨(written more).2, ?_⟩
    intro now draft
    refine ⟨_, _, rfl, ?_, ?_⟩
    · intro had
      exact Int64.lt_irrefl ((written more).2 _ had)
    · intro id q stands
      have other : m.nextPostId ≠ id :=
        fun same => Int64.lt_irrefl (same ▸ (written more).1 id q stands)
      exact (Table.find?_insert ..).trans ((if_neg other).trans stands)
  · intro fresh
    refine ⟨distinct fresh, ?_, ?_⟩
    · intro email c
      exact credentials_eq_ok_iff apart (distinct fresh)
    · intro more
      exact (registrations fresh more).2

/-- A post is deleted, and its id is not given out again. -/
theorem run_integrity_deleted :
    let script : List (Instant × Deed) := [(.epoch, .insertUser 7 "a" "user" "" true),
      (.epoch, .call (.createPost ⟨7, "", "", []⟩)), (.epoch, .call (.deletePost 1))]
    let m := (seeded.run script).2
    (AlwaysFresh script ∧ ¬ HadPost script Int64.maxValue ∧ m.accounts.find? Int64.maxValue = none) ∧
      (∃ p m', m.createPost .epoch ⟨7, "", "", []⟩ = (.ok p, m') ∧ p.id = 2 ∧ ¬ HadPost script p.id) ∧
      Distinct m.accounts ∧ ∀ id c, m.accounts.find? id = some c → id < m.nextUserId := by
  intro script m
  have fresh : AlwaysFresh script := by
    show AlwaysFresh ([] ++ [_] ++ [_] ++ [_])
    simp only [alwaysFresh_concat]
    exact ⟨⟨⟨alwaysFresh_nil, rfl, fun _ _ found => (nomatch found)⟩, trivial⟩, trivial⟩
  have noPost : ¬ HadPost script Int64.maxValue := by
    show ¬ HadPost ([] ++ [_] ++ [_] ++ [_]) Int64.maxValue
    simp only [hadPost_concat]
    rintro (((had | ⟨p, stood⟩) | ⟨p, stood⟩) | ⟨p, stood⟩)
    · exact not_hadPost_nil _ had
    all_goals cases stood
  have nobody : m.accounts.find? Int64.maxValue = none := by decide
  obtain ⟨-, accounts, posts, names⟩ := run_integrity script
  obtain ⟨p, m', written, unused, -⟩ := (posts noPost).2 .epoch ⟨7, "", "", []⟩
  refine ⟨⟨fresh, noPost, nobody⟩, ⟨p, m', written, ?_, unused⟩, (names fresh).1, (accounts nobody).1⟩
  cases written
  decide

/-- After the last id, the first ones are given out again, and an account takes the place of another. -/
theorem run_integrity_exhausted :
    let script : List (Instant × Deed) := [(.epoch, .insertUser Int64.minValue "low" "user" "" true),
      (.epoch, .insertUser (Int64.maxValue - 1) "m" "user" "" true),
      (.epoch, .call (.createAndInvite ⟨"a", "a@x.y", "", "user"⟩ ⟨"d-a", .epoch⟩))]
    let m := (seeded.run script).2
    let m' := (m.createAndInvite .epoch ⟨"b", "b@x.y", "", "user"⟩ ⟨"d-b", .epoch⟩).2
    Int64.minValue < Int64.maxValue ∧ Int64.maxValue - 1 < Int64.maxValue ∧
      ¬ Int64.maxValue < m.nextUserId ∧ (m.user? Int64.maxValue).map (·.username) = some "a" ∧
      (m.user? Int64.minValue).map (·.username) = some "low" ∧
      (m'.user? Int64.minValue).map (·.username) = some "b" := by
  decide +kernel

end Memory
end Gatehouse.Store
