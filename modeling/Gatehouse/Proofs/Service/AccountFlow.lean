import Gatehouse.Proofs.Account.Password
import Gatehouse.Proofs.Service.Undisturbed

/-!
The way of an account from its registration to its first request.

* `Standing`: the account of an opening stands in a store, and nobody else has its address. Whatever
  happens, it stands (`run_standing`), and once it is active it stays so.
* `run_awaits`: its invitation waits to be used up until it is presented in time.
* `account_flow`: so an account that is registered can be activated, logged in and acted for, whatever
  other requests come in between.
-/

namespace Gatehouse.Service

open Http (Request Response)
open Store (Memory activated)

/-! ### Accounts that stand -/

variable {o : Opening} {n : Nat} {s : Service} {x : Exchange} {m m' : Memory}

/-- The account of an opening stands in a store, in which `n` accounts have been opened since, and nobody
else has its address. -/
structure Standing (o : Opening) (n : Nat) (m : Memory) : Prop where
  apart : m.accounts.Apart
  account : ∃ a, m.accounts.find? o.user.id = some a ∧ (a = o.credentials ∨ a = activated o.credentials)
  sole : ∀ k a, m.accounts.find? k = some a → a.user.email = o.user.email → k = o.user.id
  next : m.nextUserId = o.user.id + Int64.ofNat (n + 1)

/-- The account of an opening is active. -/
def Active (o : Opening) (m : Memory) : Prop :=
  m.accounts.find? o.user.id = some (activated o.credentials)

/-- The invitation of an opening has not been used up. -/
def Awaits (o : Opening) (m : Memory) : Prop :=
  m.invitations.find? o.invitation.digest = some ⟨o.user.id, o.invitation.expiresAt⟩

/-- The next id is not given out yet, until all ids are. -/
theorem Standing.fresh (standing : Standing o n m) (few : n + 1 < 2 ^ 64) : m.nextUserId ≠ o.user.id := by
  intro same
  have zero : Int64.ofNat (n + 1) = 0 :=
    Int64.add_eq_left.mp (standing.next.symm.trans same)
  have words := congrArg (fun n : Int64 => n.toBitVec.toNat) zero
  simp at words
  omega

/-- What an opening leaves behind: an account that stands, and an invitation that waits. -/
theorem standing_of_createAndInvite {now : Instant} {newcomer : Store.Newcomer} (apart : m.accounts.Apart)
    (hashed : newcomer.passwordHash = o.passwordHash)
    (opened : m.createAndInvite now newcomer o.invitation = (.ok o.user, m')) :
    Standing o 0 m' ∧ Awaits o m' := by
  obtain ⟨emails, -, role, -, user, rfl⟩ := Memory.createAndInvite_eq_ok.mp opened
  have id : o.user.id = m.nextUserId := congrArg User.id user
  have email : o.user.email = newcomer.email := congrArg User.email user
  refine ⟨⟨apart.insert _ _, ⟨o.credentials, ?_, .inl rfl⟩, fun k a found same => ?_, ?_⟩, ?_⟩
  · rw [Table.find?_insert, if_pos id.symm, hashed]
    rfl
  · rw [Table.find?_insert] at found
    split at found
    · next new => exact new.symm.trans id.symm
    · have mem := List.mem_map_of_mem (f := Prod.snd) (Table.mem_of_find? found)
      exact absurd (same.trans email) (emails a mem)
  · rw [id]
    rfl
  · rw [Awaits, Table.find?_insert, if_pos rfl, id]

/-- It stands when another account is opened. -/
theorem Standing.createAndInvite (standing : Standing o n m) (few : n + 1 < 2 ^ 64) {now : Instant}
    {newcomer : Store.Newcomer} {i : Invitation} {u : User}
    (done : m.createAndInvite now newcomer i = (.ok u, m')) :
    Standing o (n + 1) m' ∧ (Active o m → Active o m') := by
  obtain ⟨a, found, account⟩ := standing.account
  have email : a.user.email = o.user.email := by rcases account with rfl | rfl <;> rfl
  obtain ⟨emails, -, role, -, user, rfl⟩ := Memory.createAndInvite_eq_ok.mp done
  have other := standing.fresh few
  have still {b : Credentials} (found : m.accounts.find? o.user.id = some b) :
      (m.accounts.insert m.nextUserId ⟨u, newcomer.passwordHash⟩).find? o.user.id = some b := by
    rw [Table.find?_insert, if_neg other, found]
  have address : o.user.email ≠ newcomer.email :=
    email ▸ emails a (List.mem_map_of_mem (f := Prod.snd) (Table.mem_of_find? found))
  refine ⟨⟨standing.apart.insert _ _, ⟨a, still found, account⟩, fun k b found same => ?_, ?_⟩, still⟩
  · rw [Table.find?_insert] at found
    split at found
    · cases found
      exact absurd (same.symm.trans (congrArg User.email user)) address
    · exact standing.sole k b found same
  · show m.nextUserId + 1 = _
    rw [standing.next, Int64.ofNat_add (n + 1) 1, ← Int64.add_assoc]
    rfl

/-- It stands when an invitation is used up, be it its own or not. -/
theorem Standing.activate (standing : Standing o n m) {digest : String} {now : Instant} {id : Int64}
    (done : m.activate digest now = (.ok id, m')) :
    Standing o n m' ∧ (Active o m → Active o m') := by
  obtain ⟨a, found, account⟩ := standing.account
  obtain ⟨p, c, -, -, owner, -, rfl⟩ := Memory.activate_eq_ok.mp done
  refine ⟨⟨standing.apart.insert _ _, ?_, fun k b found same => ?_, standing.next⟩, fun active => ?_⟩
  · rw [Table.find?_insert]
    split
    · next own =>
      obtain rfl := Option.some.inj (owner.symm.trans (own ▸ found))
      exact ⟨_, rfl, .inr (by rcases account with rfl | rfl <;> rfl)⟩
    · exact ⟨a, found, account⟩
  · rw [Table.find?_insert] at found
    split at found
    · next own =>
      cases found
      exact own ▸ standing.sole p.userId c owner same
    · exact standing.sole k b found same
  · rw [Active, Table.find?_insert]
    split
    · next own =>
      rw [Active, ← own] at active
      obtain rfl := Option.some.inj (owner.symm.trans active)
      rfl
    · exact active

/-- It stands when no account or invitation changes. -/
theorem Standing.sameAccounts (standing : Standing o n m) (same : m.SameAccounts m') :
    Standing o n m' ∧ (Active o m → Active o m') := by
  refine ⟨⟨?_, ?_, ?_, ?_⟩, fun active => ?_⟩
  · exact same.accounts ▸ standing.apart
  · exact same.accounts ▸ standing.account
  · exact same.accounts ▸ standing.sole
  · exact same.nextUserId.trans standing.next
  · rw [Active, same.accounts]
    exact active

/-- **An account stands through every exchange**, and stays active once it is. -/
theorem Standing.step (standing : Standing o n m) (enrols : Gate.Enrols s x m m')
    (few : n + (if x.isOpening then 1 else 0) < 2 ^ 64) :
    Standing o (n + if x.isOpening then 1 else 0) m' ∧ (Active o m → Active o m') := by
  cases enrols with
  | opened o' now newcomer opens hashed done =>
    have isOpening : x.isOpening = true := by simp [Exchange.isOpening, opens.aimed, opens.status]
    rw [if_pos isOpening] at few ⊢
    exact standing.createAndInvite few done
  | activated segment text id aimed decoded status done =>
    have other : x.isOpening = false := by simp [Exchange.isOpening, status]
    rw [other]
    exact standing.activate done
  | neither same other =>
    rw [other]
    exact standing.sameAccounts same

/-! ### Invitations that wait -/

/-- An exchange tries to use up an invitation. -/
def Exchange.Redeems (x : Exchange) (text : String) : Prop :=
  ∃ segment, aim x.request = .action (.activate segment) ∧
    Http.Percent.decodeText? segment = some text

/-- The plaintexts that an exchange has to do with: the one it draws, and the one it redeems. -/
def Exchange.Involves (x : Exchange) (text : String) : Prop :=
  text = Invitation.plaintext x.draws.invitation ∨ x.Redeems text

/-- What a log has to do with an invitation: its random bytes are not drawn again, no other text that is
involved has its hash, and it is not redeemed before its end. -/
structure Untouched (random : Bytes) (expiry : Instant) (log : List Exchange) : Prop where
  drawn : ∀ x ∈ log, x.draws.invitation ≠ random
  hashed : ∀ x ∈ log, ∀ text, x.Involves text →
    Digest.Sha256.hash (Bytes.utf8 text) = Digest.Sha256.hash (Bytes.utf8 (Invitation.plaintext random)) →
    text = Invitation.plaintext random
  redeemed : ∀ x ∈ log, x.Redeems (Invitation.plaintext random) → x.arrival.before expiry = false

theorem Untouched.initial {random : Bytes} {expiry : Instant} {log log' : List Exchange}
    (untouched : Untouched random expiry (log ++ log')) : Untouched random expiry log :=
  ⟨fun x mem => untouched.drawn x (List.mem_append_left _ mem),
    fun x mem => untouched.hashed x (List.mem_append_left _ mem),
    fun x mem => untouched.redeemed x (List.mem_append_left _ mem)⟩

/-- **An invitation waits through every exchange** that does not touch it. -/
theorem Awaits.step {random : Bytes} {log : List Exchange} (awaits : Awaits o m)
    (digest : o.invitation.digest = Invitation.digestOf (Invitation.plaintext random))
    (untouched : Untouched random o.invitation.expiresAt (log ++ [x]))
    (enrols : Gate.Enrols s x m m') : Awaits o m' := by
  have last : x ∈ log ++ [x] := by simp
  -- A text with the digest of the invitation is its plaintext.
  have own {text : String} (involves : x.Involves text)
      (same : Invitation.digestOf text = o.invitation.digest) : text = Invitation.plaintext random :=
    untouched.hashed x last text involves (Invitation.hash_eq_of_digestOf (same.trans digest))
  cases enrols with
  | opened o' now newcomer opens hashed done =>
    obtain ⟨-, -, role, -, -, rfl⟩ := Memory.createAndInvite_eq_ok.mp done
    have invited := opens.invited
    simp only [Invitation.make?, Option.map_eq_some_iff] at invited
    obtain ⟨expiry, -, invitation⟩ := invited
    have other : o'.invitation.digest ≠ o.invitation.digest := by
      intro same
      rw [← invitation] at same
      exact untouched.drawn x last (Invitation.plaintext_injective (own (.inl rfl) same))
    rw [Awaits, Table.find?_insert, if_neg other]
    exact awaits
  | activated segment text id aimed decoded status done =>
    obtain ⟨p, c, stored, early, -, -, rfl⟩ := Memory.activate_eq_ok.mp done
    have other : Invitation.digestOf text ≠ o.invitation.digest := by
      intro same
      have redeems : x.Redeems text := ⟨segment, aimed, decoded⟩
      have late := untouched.redeemed x last (own (.inr redeems) same ▸ redeems)
      obtain rfl := Option.some.inj (awaits.symm.trans (same ▸ stored))
      exact Bool.false_ne_true (late.symm.trans early)
    rw [Awaits, Table.find?_erase, if_neg other]
    exact awaits
  | neither same other =>
    rw [Awaits, same.invitations]
    exact awaits

/-! ### Runs -/

variable {g : Gate}

/-- Nothing but a request changes what is stored. -/
theorem Gate.proceed_store (t : List Exchange × Gate) (o : Occurrence) :
    (∃ draws r, o = .request draws r) ∨
      (Gate.proceed t o).1 = t.1 ∧ (Gate.proceed t o).2.store = t.2.store := by
  cases o with
  | request draws r => exact .inl ⟨draws, r, rfl⟩
  | wait d => exact .inr ⟨rfl, rfl⟩
  | sweep => exact .inr ⟨rfl, congrArg (·.backend.store) (Gate.sweep_world t.2)⟩

/-- **An account stands through every run**, and stays active once it is. -/
theorem run_standing (standing : Standing o n g.store) (occurrences : List Occurrence)
    (few : n + (g.run occurrences).1.countP (·.isOpening) < 2 ^ 64) :
    Standing o (n + (g.run occurrences).1.countP (·.isOpening)) (g.run occurrences).2.store ∧
      (Active o g.store → Active o (g.run occurrences).2.store) := by
  induction occurrences using List.reverseRecOn with
  | nil => exact ⟨standing, id⟩
  | append_singleton occurrences oc ih =>
    rw [Gate.run_concat] at few ⊢
    generalize g.run occurrences = t at ih few ⊢
    rcases Gate.proceed_store t oc with ⟨draws, r, rfl⟩ | ⟨log, store⟩
    · simp only [Gate.proceed, List.countP_append, List.countP_singleton, ← Nat.add_assoc] at few ⊢
      obtain ⟨stands, stays⟩ := ih (by omega)
      obtain ⟨stands', stays'⟩ := stands.step (t.2.handle_enrols draws r) few
      exact ⟨stands', stays' ∘ stays⟩
    · rw [log] at few ⊢
      rw [store]
      exact ih few

theorem run_awaits {random : Bytes} (awaits : Awaits o g.store)
    (digest : o.invitation.digest = Invitation.digestOf (Invitation.plaintext random))
    (occurrences : List Occurrence)
    (untouched : Untouched random o.invitation.expiresAt (g.run occurrences).1) :
    Awaits o (g.run occurrences).2.store := by
  induction occurrences using List.reverseRecOn with
  | nil => exact awaits
  | append_singleton occurrences oc ih =>
    rw [Gate.run_concat] at untouched ⊢
    generalize g.run occurrences = t at ih untouched ⊢
    rcases Gate.proceed_store t oc with ⟨draws, r, rfl⟩ | ⟨log, store⟩
    · exact (ih untouched.initial).step digest untouched (t.2.handle_enrols draws r)
    · rw [log] at untouched
      rw [store]
      exact ih untouched

/-! ### Stores of services -/

/-- A store has the seeded roles, and no two accounts under one id. -/
structure Regular (m : Memory) : Prop where
  roles : m.roles = Memory.seededRoles
  apart : m.accounts.Apart

theorem Regular.step (regular : Regular m) (enrols : Gate.Enrols s x m m') : Regular m' := by
  cases enrols with
  | opened o' now newcomer opens hashed done =>
    obtain ⟨-, -, role, -, -, rfl⟩ := Memory.createAndInvite_eq_ok.mp done
    exact ⟨regular.roles, regular.apart.insert _ _⟩
  | activated segment text id aimed decoded status done =>
    obtain ⟨p, c, -, -, -, -, rfl⟩ := Memory.activate_eq_ok.mp done
    exact ⟨regular.roles, regular.apart.insert _ _⟩
  | neither same other => exact ⟨same.roles.trans regular.roles, same.accounts ▸ regular.apart⟩

theorem run_regular (regular : Regular g.store) (occurrences : List Occurrence) :
    Regular (g.run occurrences).2.store := by
  induction occurrences using List.reverseRecOn with
  | nil => exact regular
  | append_singleton occurrences oc ih =>
    rw [Gate.run_concat]
    generalize g.run occurrences = t at ih ⊢
    rcases Gate.proceed_store t oc with ⟨draws, r, rfl⟩ | ⟨-, store⟩
    · exact ih.step (t.2.handle_enrols draws r)
    · exact store ▸ ih

/-! ### One step after the other -/

/-- A gate of a service at which nothing comes in the way of an account, `n` accounts after it. -/
structure Hosts (s : Service) (o : Opening) (n : Nat) (g : Gate) : Prop where
  service : g.service = s
  undisturbed : g.Undisturbed
  faithful : g.Faithful
  standing : Standing o n g.store

/-- **Whatever happens, a gate goes on to host an account.** -/
theorem Hosts.run (hosts : Hosts s o n g) (occurrences : List Occurrence)
    (few : n + (g.run occurrences).1.countP (·.isOpening) < 2 ^ 64) :
    Hosts s o (n + (g.run occurrences).1.countP (·.isOpening)) (g.run occurrences).2 :=
  ⟨(g.run_service occurrences).trans hosts.service, Gate.run_undisturbed hosts.undisturbed occurrences,
    Gate.run_faithful hosts.faithful occurrences, (run_standing hosts.standing occurrences few).1⟩

/-- A request after which the account still stands. -/
theorem Hosts.handle {draws : Draws} {r : Request} (hosts : Hosts s o n g)
    (standing : Standing o n (g.handle draws r).2.store) : Hosts s o n (g.handle draws r).2 :=
  ⟨(g.handle_service draws r).trans hosts.service,
    Gate.proceed_undisturbed (t := ([], g)) hosts.undisturbed (.request draws r),
    Gate.proceed_faithful (t := ([], g)) hosts.faithful (.request draws r), standing⟩

variable (draws : Draws) {r : Request}

/-- **A registration opens an account** and has an invitation wait for it. -/
theorem register_step (regular : Regular g.store) (undisturbed : g.Undisturbed) (faithful : g.Faithful)
    {p : Registration} (asks : Asks r "POST" "/v1/authentication/user")
    (carries : Carries Registration.shape r p)
    (accepted : Form.registration p.username p.email p.password = .ok ())
    (newAddress : ∀ c ∈ g.store.accounts.values, c.user.email ≠ p.email)
    (newName : ∀ c ∈ g.store.accounts.values, c.user.username ≠ p.username) {expiry : Instant}
    (tellable : g.world.today.after? g.service.invitationTtl = some expiry) :
    ∃ o, (g.exchange draws r).Opens g.service o ∧ o.user.role.name = Role.ofNewcomers ∧
      o.user.email = p.email ∧ o.passwordHash = Password.hash draws.salt p.password ∧
      o.invitation = ⟨Invitation.digestOf (Invitation.plaintext draws.invitation), expiry⟩ ∧
      Hosts g.service o 0 (g.handle draws r).2 ∧ Awaits o (g.handle draws r).2.store := by
  have invited : Invitation.make? (Invitation.plaintext draws.invitation) g.world.today
      g.service.invitationTtl =
        some ⟨Invitation.digestOf (Invitation.plaintext draws.invitation), expiry⟩ := by
    rw [Invitation.make?, tellable]
    rfl
  have role : g.store.role? (newcomer draws p).role =
      some ⟨1, "user", "A user can create posts and comments", 1⟩ := by
    rw [Memory.role?, regular.roles]
    rfl
  obtain ⟨m, opened⟩ : ∃ m, g.store.createAndInvite g.world.today (newcomer draws p)
      ⟨Invitation.digestOf (Invitation.plaintext draws.invitation), expiry⟩ =
        (.ok ⟨g.store.nextUserId, p.username, p.email,
          ⟨1, "user", "A user can create posts and comments", 1⟩, false, g.world.today⟩, m) :=
    ⟨_, Memory.createAndInvite_eq_ok.mpr ⟨newAddress, newName, _, role, rfl, rfl⟩⟩
  let o : Opening := ⟨⟨g.store.nextUserId, p.username, p.email,
    ⟨1, "user", "A user can create posts and comments", 1⟩, false, g.world.today⟩,
    Password.hash draws.salt p.password,
    ⟨Invitation.digestOf (Invitation.plaintext draws.invitation), expiry⟩⟩
  obtain ⟨opens, stored⟩ := undisturbed.registers (o := o) asks carries accepted rfl invited opened
  obtain ⟨standing, awaits⟩ := standing_of_createAndInvite (o := o) regular.apart rfl opened
  rw [← stored] at standing awaits
  refine ⟨o, opens, rfl, rfl, rfl, rfl, ?_, awaits⟩
  exact ⟨g.handle_service draws r,
    Gate.proceed_undisturbed (t := ([], g)) undisturbed (.request draws r),
    Gate.proceed_faithful (t := ([], g)) faithful (.request draws r), standing⟩

/-- **The invitation that waits activates the account.** -/
theorem activate_step (hosts : Hosts s o n g) (few : n < 2 ^ 64) (awaits : Awaits o g.store) {random : Bytes}
    (bytes : random ≠ [])
    (digest : o.invitation.digest = Invitation.digestOf (Invitation.plaintext random))
    (asks : Asks r "PUT" ("/v1/users/activate/" ++ Invitation.plaintext random))
    (early : g.world.today.before o.invitation.expiresAt = true) :
    (g.handle draws r).1.status = 204 ∧ Hosts s o n (g.handle draws r).2 ∧
      Active o (g.handle draws r).2.store := by
  obtain ⟨a, found, account⟩ := hosts.standing.account
  have waiting : g.store.invitations.find? (Invitation.digestOf (Invitation.plaintext random)) =
      some ⟨o.user.id, o.invitation.expiresAt⟩ := by
    rw [← digest]
    exact awaits
  obtain ⟨m, used⟩ : ∃ m, g.store.activate (Invitation.digestOf (Invitation.plaintext random))
      g.world.today = (.ok o.user.id, m) :=
    ⟨_, Memory.activate_eq_ok.mpr ⟨_, a, waiting, early, found, rfl, rfl⟩⟩
  obtain ⟨status, stored⟩ := hosts.undisturbed.activates draws bytes asks used
  have other : (g.exchange draws r).isOpening = false := by
    simp [Exchange.isOpening, Gate.exchange, status]
  have stands := (hosts.standing.step (g.handle_enrols draws r) (by simpa [other] using few)).1
  rw [other] at stands
  refine ⟨status, hosts.handle stands, ?_⟩
  obtain ⟨p, c, waits, -, owner, -, rfl⟩ := Memory.activate_eq_ok.mp used
  obtain rfl := Option.some.inj (waits.symm.trans waiting)
  obtain rfl := Option.some.inj (owner.symm.trans found)
  rw [Active, stored, Table.find?_insert, if_pos rfl]
  rcases account with rfl | rfl <;> rfl

/-- The account is the one that is found under its address. -/
theorem Standing.find?_email (standing : Standing o n m) (active : Active o m) :
    m.accounts.values.find? (fun c => c.user.email = o.user.email) = some (activated o.credentials) := by
  cases found : m.accounts.values.find? (fun c => c.user.email = o.user.email) with
  | none =>
    have mem := List.mem_map_of_mem (f := Prod.snd) (Table.mem_of_find? active)
    exact absurd (decide_eq_true rfl) (List.find?_eq_none.mp found _ mem)
  | some c =>
    have email : c.user.email = o.user.email := by simpa using List.find?_some found
    obtain ⟨⟨k, c'⟩, entry, rfl⟩ := List.mem_map.mp (List.mem_of_find?_eq_some found)
    have entry := standing.apart.find?_of_mem entry
    obtain rfl := standing.sole k c' entry email
    exact entry.symm.trans active

/-- **A login is answered with a token** for the account. -/
theorem logIn_step (hosts : Hosts s o n g) (active : Active o g.store) {password : String} {salt : Bytes}
    (length : salt.length = 16) (hashed : o.passwordHash = Password.hash salt password)
    (asks : Asks r "POST" "/v1/authentication/token")
    (carries : Carries Login.shape r ⟨o.user.email, password⟩)
    (accepted : Form.login o.user.email password = .ok ()) :
    (g.exchange draws r).Issues s ⟨o.user.email, password⟩
        (s.authority.claimsFor o.user.id (Int64.ofInt g.world.today.secs)) ∧
      Hosts s o n (g.handle draws r).2 := by
  have verified : Password.verify password (activated o.credentials).passwordHash = true := by
    show Password.verify password o.passwordHash = true
    rw [hashed]
    exact Password.verify_hash _ length
  obtain ⟨issues, stored⟩ := hosts.undisturbed.issues draws asks carries accepted
    (hosts.standing.find?_email active) verified rfl
  rw [hosts.service] at issues
  exact ⟨issues, hosts.handle (stored ▸ hosts.standing)⟩

/-- **A request with the token** is carried out for the account. -/
theorem admit_step (hosts : Hosts s o n g) {a : Action} {body : User → Attempt Response}
    (aimed : aim r = .action a) (handled : Handles s r a body) {now : Int64}
    (first : r.headers.first? "authorization" =
      some (Bytes.utf8 ("Bearer " ++ s.authority.issueFor o.user.id now)))
    (begun : now ≤ Int64.ofInt g.world.today.secs)
    (holds : Int64.ofInt g.world.today.secs < (s.authority.claimsFor o.user.id now).exp) :
    ∃ u, u.id = o.user.id ∧ g.Admits draws r body u := by
  obtain ⟨-, visible⟩ := s.authority.generate_visible (s.authority.claimsFor o.user.id now)
  have ascii : ∀ c ∈ ("Bearer " ++ s.authority.issueFor o.user.id now).toList, c.toNat < 128 := by
    intro c mem
    rw [String.toList_append] at mem
    rcases List.mem_append.mp mem with scheme | token
    · exact (by simp : ∀ c ∈ "Bearer ".toList, c.toNat < 128) c scheme
    · exact Nat.lt_of_le_of_lt (visible c token).2 (by decide)
  rw [Bytes.utf8_of_ascii ascii, String.toList_append, List.map_append] at first
  have accepted : (s.authority.claimsFor o.user.id now).check s.authority.service
      (Int64.ofInt g.world.today.secs) = .ok (s.authority.claimsFor o.user.id now) := by
    have notExpired := Int64.not_le.mpr holds
    have valid : ¬ Int64.ofInt g.world.today.secs < (s.authority.claimsFor o.user.id now).nbf :=
      Int64.not_lt.mpr begun
    have iss : ¬ (s.authority.claimsFor o.user.id now).iss ≠ s.authority.service := fun other => other rfl
    have aud : ¬ (s.authority.claimsFor o.user.id now).aud ≠ s.authority.service := fun other => other rfl
    simp only [Token.Claims.check, ge_iff_le, if_neg notExpired, if_neg valid, if_neg iss, if_neg aud]
  obtain ⟨a, found, account⟩ := hosts.standing.account
  obtain rfl := hosts.service
  exact hosts.undisturbed.admits hosts.faithful aimed handled (presents_generate first accepted) found
    (by rcases account with rfl | rfl <;> rfl)

/-- **The way of an account.** Take a service that has come from the seeded store by any run, at which
everyone is admitted and nothing is going to befall any call, and a registration that keeps the rules,
with a name and an address that nobody has and a password that is not blank. The end of its invitation
can be told. -/
theorem account_flow (g₀ : Gate) (seeded : g₀.store = .seeded)
    (uncached : g₀.world.backend.cache = .empty) (before : List Occurrence) (g : Gate)
    (reached : (g₀.run before).2 = g) (undisturbed : g.Undisturbed) (draws : Draws)
    (random : draws.invitation.length = 32) (salt : draws.salt.length = 16) (r : Request)
    (p : Registration)
    (asks : Asks r "POST" "/v1/authentication/user") (carries : Carries Registration.shape r p)
    (accepted : Form.registration p.username p.email p.password = .ok ())
    (notBlank : Text.isBlankText p.password = false)
    (newAddress : ∀ c ∈ g.store.accounts.values, c.user.email ≠ p.email)
    (newName : ∀ c ∈ g.store.accounts.values, c.user.username ≠ p.username) (expiry : Instant)
    (tellable : g.world.today.after? g.service.invitationTtl = some expiry) :
    ∃ o, ((g.exchange draws r).Opens g.service o ∧ o.user.email = p.email ∧
        o.user.role.name = Role.ofNewcomers ∧ o.invitation.expiresAt = expiry) ∧
      -- The first request in time to activate the account does so, whatever has come in between. Here
      -- and later on, fewer accounts are opened than there are ids.
      ∀ between log₁ g₁ draws₁ r₁, (g.handle draws r).2.run between = (log₁, g₁) →
        log₁.countP (·.isOpening) < 2 ^ 64 → Untouched draws.invitation expiry log₁ →
        Asks r₁ "PUT" ("/v1/users/activate/" ++ Invitation.plaintext draws.invitation) →
        g₁.world.today.before expiry = true →
        (g₁.handle draws₁ r₁).1.status = 204 ∧
        -- From then on, a login with the same address and password is answered with a token.
        ∀ after log₂ g₂ draws₂ r₂, (g₁.handle draws₁ r₁).2.run after = (log₂, g₂) →
          log₁.countP (·.isOpening) + log₂.countP (·.isOpening) < 2 ^ 64 →
          Asks r₂ "POST" "/v1/authentication/token" →
          Carries Login.shape r₂ ⟨p.email, p.password⟩ →
          let issued := Int64.ofInt g₂.world.today.secs
          let c := g.service.authority.claimsFor o.user.id issued
          (g₂.exchange draws₂ r₂).Issues g.service ⟨p.email, p.password⟩ c ∧
          -- From its issue to its end, every protected request with it is carried out for the account.
          ∀ later log₃ g₃ draws₃ r₃ a body, (g₂.handle draws₂ r₂).2.run later = (log₃, g₃) →
            log₁.countP (·.isOpening) + log₂.countP (·.isOpening) + log₃.countP (·.isOpening) < 2 ^ 64 →
            aim r₃ = .action a → Handles g.service r₃ a body →
            r₃.headers.first? "authorization" =
              some (Bytes.utf8 ("Bearer " ++ g.service.authority.generate c)) →
            c.nbf ≤ Int64.ofInt g₃.world.today.secs → Int64.ofInt g₃.world.today.secs < c.exp →
            ∃ u, u.id = o.user.id ∧ g₃.Admits draws₃ r₃ body u := by
  have regular : Regular g.store :=
    reached ▸ run_regular (seeded ▸ ⟨rfl, Table.apart_empty⟩) before
  have faithful : g.Faithful := by
    rw [← reached]
    refine Gate.run_faithful ?_ before
    rw [Gate.Faithful, uncached]
    exact Cache.Memory.faithful_empty
  have bytes : draws.invitation ≠ [] := by
    rintro none
    rw [none] at random
    cases random
  obtain ⟨o, opens, role, email, hashed, invitation, hosts, awaits⟩ :=
    register_step draws regular undisturbed faithful asks carries accepted newAddress newName tellable
  have digest : o.invitation.digest = Invitation.digestOf (Invitation.plaintext draws.invitation) := by
    rw [invitation]
  have expires : o.invitation.expiresAt = expiry := by rw [invitation]
  refine ⟨o, ⟨opens, email, role, expires⟩, ?_⟩
  intro between log₁ g₁ draws₁ r₁ ran₁ few₁ untouched asks₁ early
  subst expires
  have hosts₁ := hosts.run between (by simpa [ran₁] using few₁)
  have awaits₁ := run_awaits awaits digest between (ran₁ ▸ untouched)
  rw [ran₁] at hosts₁ awaits₁
  obtain ⟨status, hosts₁, active₁⟩ :=
    activate_step draws₁ hosts₁ (by simpa using few₁) awaits₁ bytes digest asks₁ early
  refine ⟨status, ?_⟩
  intro after log₂ g₂ draws₂ r₂ ran₂ few₂ asks₂ carries₂
  have hosts₂ := hosts₁.run after (by simpa [ran₂] using few₂)
  have active₂ := (run_standing hosts₁.standing after (by simpa [ran₂] using few₂)).2 active₁
  rw [ran₂] at hosts₂ active₂
  obtain ⟨issues, hosts₂⟩ := logIn_step draws₂ hosts₂ active₂ salt hashed asks₂
    (email.symm ▸ carries₂) (email.symm ▸ Form.login_of_registration accepted notBlank)
  refine ⟨email ▸ issues, ?_⟩
  intro later log₃ g₃ draws₃ r₃ a body ran₃ few₃ aimed handled first begun holds
  have hosts₃ := hosts₂.run later (by simpa [ran₃] using few₃)
  rw [ran₃] at hosts₃
  exact admit_step draws₃ hosts₃ aimed handled first begun holds

/-- A registration a minute before its account is activated, a login, and a look at a post. -/
theorem account_flow_carol :
    let auth : Token.Authority := ⟨[1], "agora", Duration.ofSecs 60, by decide⟩
    let g : Gate := ⟨⟨auth, .plain, ⟨"operator", "secret"⟩, defaultInvitationTtl, ""⟩, .everyone,
      ⟨.start, fun _ => default, default⟩⟩
    let p : Registration := ⟨"carol", "carol@example.com", "correct horse"⟩
    let draws : Draws := ⟨List.replicate 16 0, List.replicate 32 0, []⟩
    let json : Http.Headers := [("content-type", Bytes.utf8 "application/json")]
    let r : Request := ⟨"POST", "/v1/authentication/user".toList, json, Registration.shape.encode p, none⟩
    let r₁ : Request :=
      ⟨"PUT", ("/v1/users/activate/" ++ Invitation.plaintext draws.invitation).toList, [], [], none⟩
    let r₂ : Request := ⟨"POST", "/v1/authentication/token".toList, json,
      Login.shape.encode ⟨p.email, p.password⟩, none⟩
    let g₁ := ((g.handle draws r).2.run [.wait (Duration.ofSecs 60)]).2
    let g₂ := (g₁.handle default r₁).2
    let g₃ := (g₂.handle default r₂).2
    ∃ o, (g.exchange draws r).Opens g.service o ∧ (g₁.handle default r₁).1.status = 204 ∧
      (g₂.exchange default r₂).Issues g.service ⟨p.email, p.password⟩ (auth.claimsFor o.user.id 0) ∧
      ∃ u, u.id = o.user.id ∧ g₃.Admits default ⟨"GET", "/v1/posts/7".toList,
        [("authorization", Bytes.utf8 ("Bearer " ++ auth.generate (auth.claimsFor o.user.id 0)))], [], none⟩
        (fun _ => showPost ['7']) u := by
  intro auth g p draws json r r₁ r₂ g₁ g₂ g₃
  have undisturbed : g.Undisturbed := ⟨rfl, Script.calm_empty⟩
  have carries : Carries Registration.shape r p := ⟨by decide, by decide, p.decode_encode⟩
  have carries₂ : Carries Login.shape r₂ ⟨p.email, p.password⟩ :=
    ⟨by decide, by decide, Login.decode_encode _⟩
  obtain ⟨o, ⟨opens, -⟩, flow⟩ := account_flow g rfl rfl [] g rfl undisturbed draws (by decide)
    (by decide) r p ⟨rfl, rfl⟩ carries (by decide) (by decide) (by decide) (by decide)
    ⟨259200, 0, by decide, by decide, by decide, by decide⟩ (by decide)
  refine ⟨o, opens, ?_⟩
  have none : Untouched draws.invitation ⟨259200, 0, by decide, by decide, by decide, by decide⟩ [] :=
    ⟨fun _ mem => absurd mem List.not_mem_nil, fun _ mem => absurd mem List.not_mem_nil,
      fun _ mem => absurd mem List.not_mem_nil⟩
  have ran₁ : (g.handle draws r).2.run [.wait (Duration.ofSecs 60)] = ([], g₁) := rfl
  have wall₁ : g₁.world.wall = fun _ => default :=
    (Gate.run_wall _).trans (g.handle_continues draws r).wall
  clear_value g₁
  obtain ⟨status, flow⟩ := flow _ [] g₁ default r₁ ran₁ (by decide) none ⟨rfl, rfl⟩
    (by rw [World.today_of_still wall₁]; decide)
  refine ⟨status, ?_⟩
  have ran₂ : (g₁.handle default r₁).2.run [] = ([], g₂) := rfl
  have wall₂ : g₂.world.wall = fun _ => default := (g₁.handle_continues default r₁).wall.trans wall₁
  clear_value g₂
  obtain ⟨issues, flow⟩ := flow [] [] g₂ default r₂ ran₂ (by decide) ⟨rfl, rfl⟩ carries₂
  have ran₃ : (g₂.handle default r₂).2.run [] = ([], g₃) := rfl
  have wall₃ : g₃.world.wall = fun _ => default := (g₂.handle_continues default r₂).wall.trans wall₂
  clear_value g₃
  rw [World.today_of_still wall₂] at issues flow
  refine ⟨issues, flow [] [] g₃ default _ _ _ ran₃ (by decide) rfl (.showPost ['7']) rfl ?_ ?_⟩
  · rw [World.today_of_still wall₃]
    exact (by decide : (0 : Int64) ≤ 0)
  · rw [World.today_of_still wall₃]
    show Int64.ofInt (default : Instant).secs < Token.Authority.expiry (Int64.ofInt (default : Instant).secs)
      (Duration.ofSecs 60)
    decide

/-- Without an end of the invitation that can be told, the same registration fails. -/
theorem account_flow_untellable :
    let auth : Token.Authority := ⟨[1], "agora", Duration.ofSecs 60, by decide⟩
    let g : Gate := ⟨⟨auth, .plain, ⟨"operator", "secret"⟩, Duration.ofSecs 1000000000000000, ""⟩,
      .everyone, ⟨.start, fun _ => default, default⟩⟩
    let p : Registration := ⟨"carol", "carol@example.com", "correct horse"⟩
    let draws : Draws := ⟨List.replicate 16 0, List.replicate 32 0, []⟩
    let r : Request := ⟨"POST", "/v1/authentication/user".toList,
      [("content-type", Bytes.utf8 "application/json")], Registration.shape.encode p, none⟩
    g.store = .seeded ∧ g.world.backend.cache = .empty ∧ g.Undisturbed ∧
      draws.invitation.length = 32 ∧ draws.salt.length = 16 ∧ 1 ≤ auth.ttl.secs ∧
      Asks r "POST" "/v1/authentication/user" ∧ Carries Registration.shape r p ∧
      Form.registration p.username p.email p.password = .ok () ∧ Text.isBlankText p.password = false ∧
      (∀ c ∈ g.store.accounts.values, c.user.email ≠ p.email ∧ c.user.username ≠ p.username) ∧
      (g.handle draws r).1.status = 500 := by
  intro auth g p draws r
  have undisturbed : g.Undisturbed := ⟨rfl, Script.calm_empty⟩
  have asks : Asks r "POST" "/v1/authentication/user" := ⟨rfl, rfl⟩
  have carries : Carries Registration.shape r p := ⟨by decide, by decide, p.decode_encode⟩
  have accepted : Form.registration p.username p.email p.password = .ok () := by decide
  refine ⟨rfl, rfl, undisturbed, by decide, by decide, by decide, asks, carries, accepted, by decide,
    by decide, ?_⟩
  rw [undisturbed.handle_eq draws asks.register
    (run_register_untellable g.service draws _ carries accepted (by decide))]
  exact Gate.status_dispatch ..

end Gatehouse.Service
