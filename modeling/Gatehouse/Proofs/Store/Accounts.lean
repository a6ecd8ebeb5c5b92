import Gatehouse.Proofs.Store.Posts
import Gatehouse.Proofs.Table

/-!
What calls do to the accounts and invitations that are stored.

* `perform_error`: a call that fails changes nothing at all.
* `perform_sameAccounts`: all calls but three leave accounts and invitations as they are.
* `createAndInvite_eq_ok`, `createInvitation_eq_ok`, `activate_eq_ok`: when each of the three succeeds,
  and all that it does then.
-/

namespace Gatehouse.Store

/-- The calls that open an account, invite its user or activate it. -/
def Call.Enrols : Call → Prop
  | .createAndInvite _ _ | .createInvitation _ _ | .activate _ _ => True
  | _ => False

/-- Credentials of an account that has been activated. -/
def activated (c : Credentials) : Credentials := { c with user := { c.user with isActive := true } }

namespace Memory

/-- Two stores have the same roles, accounts and invitations, and go on with the same user id. -/
structure SameAccounts (m m' : Memory) : Prop where
  roles : m'.roles = m.roles
  accounts : m'.accounts = m.accounts
  invitations : m'.invitations = m.invitations
  nextUserId : m'.nextUserId = m.nextUserId

theorem SameAccounts.refl (m : Memory) : m.SameAccounts m := ⟨rfl, rfl, rfl, rfl⟩

theorem SameAccounts.trans {m m' m'' : Memory} (one : m.SameAccounts m') (two : m'.SameAccounts m'') :
    m.SameAccounts m'' :=
  ⟨two.roles.trans one.roles, two.accounts.trans one.accounts, two.invitations.trans one.invitations,
    two.nextUserId.trans one.nextUserId⟩

variable (m : Memory) (now : Instant)

/-! ### Calls that fail -/

/-- **A call that fails changes nothing.** -/
theorem perform_error {c : Call} {e : Error} (failed : (m.perform now c).1 = .error e) :
    (m.perform now c).2 = m := by
  by_cases reads : c.Reads
  · exact m.perform_of_reads now reads
  cases c with
  | createAndInvite n i =>
    simp only [perform, createAndInvite] at failed ⊢
    split at failed
    · next taken => rw [if_pos taken]
    next free =>
      rw [if_neg free]
      split at failed
      · next taken => rw [if_pos taken]
      next free =>
        rw [if_neg free]
        split at failed
        · rfl
        · cases failed
  | createInvitation userId i =>
    simp only [perform, createInvitation] at failed ⊢
    split at failed
    · cases failed
    · next missing => rw [if_neg missing]
  | activate digest today =>
    simp only [perform, activate] at failed ⊢
    split at failed
    · rfl
    next p stored =>
      split at failed
      · next holds =>
        simp only [if_pos holds]
        split at failed
        · rfl
        · cases failed
      · next expired => simp only [if_neg expired]
  | createPost d => cases failed
  | updatePost id patch =>
    simp only [perform, updatePost] at failed ⊢
    split at failed
    · rfl
    · cases failed
  | deletePost id =>
    simp only [perform, deletePost] at failed ⊢
    split at failed
    · cases failed
    · next missing => rw [if_neg missing]
  | follow follower user =>
    simp only [perform, follow] at failed ⊢
    split at failed
    · next self => rw [if_pos self]
    next other =>
      rw [if_neg other]
      split at failed
      · next known =>
        rw [if_pos known]
        split at failed
        · next already => rw [if_pos already]
        · cases failed
      · next unknown => rw [if_neg unknown]
  | unfollow follower user =>
    simp only [perform, unfollow] at failed ⊢
    split at failed
    · next self => rw [if_pos self]
    · cases failed
  | _ => exact absurd trivial reads

/-! ### Calls that succeed -/

/-- **All calls but three leave accounts and invitations as they are.** -/
theorem perform_sameAccounts {c : Call} (other : ¬ c.Enrols) :
    m.SameAccounts (m.perform now c).2 := by
  by_cases reads : c.Reads
  · rw [m.perform_of_reads now reads]
    exact .refl m
  cases c with
  | createPost d => exact ⟨rfl, rfl, rfl, rfl⟩
  | updatePost id patch =>
    simp only [perform, updatePost]
    split <;> exact ⟨rfl, rfl, rfl, rfl⟩
  | deletePost id =>
    simp only [perform, deletePost]
    split <;> exact ⟨rfl, rfl, rfl, rfl⟩
  | follow follower user =>
    simp only [perform, follow]
    split
    · exact .refl m
    split
    · split <;> exact ⟨rfl, rfl, rfl, rfl⟩
    · exact .refl m
  | unfollow follower user =>
    simp only [perform, unfollow]
    split <;> exact ⟨rfl, rfl, rfl, rfl⟩
  | createAndInvite n i => exact absurd trivial other
  | createInvitation userId i => exact absurd trivial other
  | activate digest today => exact absurd trivial other
  | _ => exact absurd trivial reads

variable {m now} {m' : Memory}

/-- **An account is opened** for a newcomer whose address and name nobody has, if the role exists: it
is inactive, and its invitation takes the place of any other one under the same digest. -/
theorem createAndInvite_eq_ok {n : Newcomer} {i : Invitation} {u : User} :
    m.createAndInvite now n i = (.ok u, m') ↔
      (∀ c ∈ m.accounts.values, c.user.email ≠ n.email) ∧
      (∀ c ∈ m.accounts.values, c.user.username ≠ n.username) ∧
      ∃ role, m.role? n.role = some role ∧
        u = ⟨m.nextUserId, n.username, n.email, role, false, now⟩ ∧
        m' = { m with
          accounts := m.accounts.insert m.nextUserId ⟨u, n.passwordHash⟩
          invitations := m.invitations.insert i.digest ⟨m.nextUserId, i.expiresAt⟩
          nextUserId := m.nextUserId + 1 } := by
  unfold createAndInvite
  split
  · next taken =>
    obtain ⟨c, mem, same⟩ := List.any_eq_true.mp taken
    refine ⟨fun h => (by cases h), fun h => absurd (of_decide_eq_true same) (h.1 c mem)⟩
  next email =>
  split
  · next taken =>
    obtain ⟨c, mem, same⟩ := List.any_eq_true.mp taken
    refine ⟨fun h => (by cases h), fun h => absurd (of_decide_eq_true same) (h.2.1 c mem)⟩
  next username =>
  have emails : ∀ c ∈ m.accounts.values, c.user.email ≠ n.email := by simpa using email
  have usernames : ∀ c ∈ m.accounts.values, c.user.username ≠ n.username := by simpa using username
  cases m.role? n.role with
  | none => simp
  | some role =>
    constructor
    · intro h
      obtain ⟨user, rest⟩ := Prod.mk.inj h
      obtain rfl := Except.ok.inj user
      exact ⟨emails, usernames, role, rfl, rfl, rest.symm⟩
    · rintro ⟨-, -, role', same, rfl, rfl⟩
      cases same
      rfl

/-- **An invitation is added** for an account that exists, in place of any other one under the same
digest. -/
theorem createInvitation_eq_ok {userId : Int64} {i : Invitation} :
    m.createInvitation userId i = (.ok (), m') ↔
      (∃ c, m.accounts.find? userId = some c) ∧
      m' = { m with invitations := m.invitations.insert i.digest ⟨userId, i.expiresAt⟩ } := by
  rw [← Option.isSome_iff_exists]
  show _ ↔ m.accounts.contains userId = true ∧ _
  unfold createInvitation
  split
  · next known => simp [known, eq_comm]
  · next unknown => simp [unknown]

/-- **An account is activated** by an invitation that is stored and has not expired, which is then
gone. -/
theorem activate_eq_ok {digest : String} {today : Instant} {id : Int64} :
    m.activate digest today = (.ok id, m') ↔
      ∃ p c, m.invitations.find? digest = some p ∧ today.before p.expiresAt = true ∧
        m.accounts.find? p.userId = some c ∧ id = p.userId ∧
        m' = { m with
          accounts := m.accounts.insert p.userId (activated c)
          invitations := m.invitations.erase digest } := by
  unfold activate
  cases m.invitations.find? digest with
  | none => simp
  | some p =>
    by_cases holds : today.before p.expiresAt = true
    · cases found : m.accounts.find? p.userId with
      | none => simp [holds, found]
      | some c =>
        simp only [if_pos holds, found]
        constructor
        · intro h
          obtain ⟨user, rest⟩ := Prod.mk.inj h
          exact ⟨p, c, rfl, holds, found, (Except.ok.inj user).symm, rest.symm⟩
        · rintro ⟨p', c', same, -, found', rfl, rfl⟩
          obtain rfl := Option.some.inj same
          obtain rfl := Option.some.inj (found.symm.trans found')
          rfl
    · simp [holds]

/-- **No call removes an account.** -/
theorem perform_accounts (m : Memory) (now : Instant) (c : Call) {id : Int64} {a : Credentials}
    (stood : m.accounts.find? id = some a) :
    ∃ a', (m.perform now c).2.accounts.find? id = some a' := by
  by_cases enrols : c.Enrols
  · rcases result : m.perform now c with ⟨e | b, m'⟩
    · have same := m.perform_error now (c := c) (congrArg Prod.fst result)
      rw [result] at same
      exact ⟨a, same ▸ stood⟩
    cases c with
    | createAndInvite n i =>
      obtain ⟨-, -, role, -, -, rfl⟩ := createAndInvite_eq_ok.mp result
      exact Table.exists_find?_insert stood ..
    | createInvitation userId i =>
      obtain ⟨-, rfl⟩ := createInvitation_eq_ok.mp result
      exact ⟨a, stood⟩
    | activate digest today =>
      obtain ⟨p, c, -, -, -, -, rfl⟩ := activate_eq_ok.mp result
      exact Table.exists_find?_insert stood ..
    | _ => exact enrols.elim
  · exact ⟨a, (m.perform_sameAccounts now enrols).accounts ▸ stood⟩

/-- An activation that is refused finds nothing, and changes nothing. -/
theorem activate_refused {digest : String} {today : Instant} {e : Error}
    (refused : (m.activate digest today).1 = .error e) :
    e = .notFound ∧ (m.activate digest today).2 = m := by
  refine ⟨?_, m.perform_error today (c := .activate digest today) refused⟩
  unfold activate at refused
  split at refused
  · exact (Except.error.inj refused).symm
  split at refused
  · split at refused
    · exact (Except.error.inj refused).symm
    · cases refused
  · exact (Except.error.inj refused).symm

end Memory

end Gatehouse.Store
