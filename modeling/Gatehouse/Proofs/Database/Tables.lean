import Gatehouse.Proofs.Database.Server
import Gatehouse.Store.Memory

/-!
Accounts and invitations in a database.

The tables hold accounts and the invitations that wait for them. Of the server that holds them it is assumed
that its statements do what they ask for, with ids of its own choice, and that uncommitted work is discarded.

* `Tables.Does`: what a statement does to the tables.
* `call_change`: what a call does to what is kept: nothing, or all that it is for.
* `Tables.Change.sound`: no account goes without its invitation until it is active.
* `transactions_all_or_nothing`: all of this, for every reply that a server may give.
-/

namespace Gatehouse.Database

open Query

/-- An account in its table. -/
structure Account where
  newcomer : Store.Newcomer
  active : Bool
deriving DecidableEq

/-- Accounts, and invitations by their digests. -/
structure Tables where
  users : Table Int64 Account
  invitations : Table String Store.Pending
deriving DecidableEq

/-- Whether a statement can change accounts or invitations. -/
def Statement.touches : Statement → Bool
  | .insertUser _ | .insertInvitation _ _ | .consumeInvitation _ _ | .activateUser _ => true
  | _ => false

/-- The first row that a statement yields holds nothing but a given id under a name, if it can be read. -/
def Reply.Names (r : Reply) (name : String) (id : Int64) : Prop :=
  ∀ row rows id', r = .rows (row :: rows) → row.int8 name = .ok id' → id' = id

namespace Tables

variable (t : Tables)

/-- An account is opened. -/
def withUser (id : Int64) (n : Store.Newcomer) : Tables :=
  { t with users := t.users.insert id ⟨n, false⟩ }

/-- An invitation is put down. -/
def withInvitation (userId : Int64) (i : Invitation) : Tables :=
  { t with invitations := t.invitations.insert i.digest ⟨userId, i.expiresAt⟩ }

/-- An invitation is taken away. -/
def withoutInvitation (digest : String) : Tables :=
  { t with invitations := t.invitations.erase digest }

/-- An account is activated. -/
def withActive (id : Int64) (a : Account) : Tables :=
  { t with users := t.users.insert id { a with active := true } }

@[simp] theorem user_withUser (id : Int64) (n : Store.Newcomer) (id' : Int64) :
    (t.withUser id n).users.find? id' = if id = id' then some ⟨n, false⟩ else t.users.find? id' :=
  Table.find?_insert ..

@[simp] theorem user_withInvitation (userId : Int64) (i : Invitation) (id : Int64) :
    (t.withInvitation userId i).users.find? id = t.users.find? id := rfl

@[simp] theorem user_withoutInvitation (digest : String) (id : Int64) :
    (t.withoutInvitation digest).users.find? id = t.users.find? id := rfl

@[simp] theorem user_withActive (id : Int64) (a : Account) (id' : Int64) :
    (t.withActive id a).users.find? id' =
      if id = id' then some { a with active := true } else t.users.find? id' :=
  Table.find?_insert ..

@[simp] theorem invitation_withUser (id : Int64) (n : Store.Newcomer) (digest : String) :
    (t.withUser id n).invitations.find? digest = t.invitations.find? digest := rfl

@[simp] theorem invitation_withInvitation (userId : Int64) (i : Invitation) (digest : String) :
    (t.withInvitation userId i).invitations.find? digest =
      if i.digest = digest then some ⟨userId, i.expiresAt⟩ else t.invitations.find? digest :=
  Table.find?_insert ..

@[simp] theorem invitation_withoutInvitation (digest digest' : String) :
    (t.withoutInvitation digest).invitations.find? digest' =
      if digest = digest' then none else t.invitations.find? digest' :=
  Table.find?_erase ..

@[simp] theorem invitation_withActive (id : Int64) (a : Account) (digest : String) :
    (t.withActive id a).invitations.find? digest = t.invitations.find? digest := rfl

/-- **What a statement does to the tables** when it is done, and what its reply can say of that. Ids are
primary keys, and so are digests; an invitation refers to an account. -/
inductive Does : Statement → Reply → Tables → Tables → Prop
  | opened {n : Store.Newcomer} {r : Reply} {t : Tables} {id : Int64} :
    t.users.find? id = none → r.Names "id" id → Does (.insertUser n) r t (t.withUser id n)
  | invited {userId : Int64} {i : Invitation} {r : Reply} {t : Tables} {a : Account} :
    t.users.find? userId = some a → t.invitations.find? i.digest = none →
    Does (.insertInvitation userId i) r t (t.withInvitation userId i)
  | consumed {digest : String} {now : Instant} {r : Reply} {t : Tables} {p : Store.Pending} :
    t.invitations.find? digest = some p → now.before p.expiresAt = true → r.Names "user_id" p.userId →
    Does (.consumeInvitation digest now) r t (t.withoutInvitation digest)
  | unmatched {digest : String} {now : Instant} {r : Reply} {t : Tables} :
    (∀ p, t.invitations.find? digest = some p → now.before p.expiresAt = false) → r.Yieldless →
    Does (.consumeInvitation digest now) r t t
  | activated {id : Int64} {r : Reply} {t : Tables} {a : Account} :
    t.users.find? id = some a → Does (.activateUser id) r t (t.withActive id a)
  | absent {id : Int64} {r : Reply} {t : Tables} :
    t.users.find? id = none → Does (.activateUser id) r t t
  | untouched {s : Statement} {r : Reply} {t : Tables} : s.touches = false → Does s r t t

/-- Every account that is not active has an invitation, and every invitation has an account. -/
structure Sound (t : Tables) : Prop where
  invited : ∀ id a, t.users.find? id = some a → a.active = false →
    ∃ digest p, t.invitations.find? digest = some p ∧ p.userId = id
  known : ∀ digest p, t.invitations.find? digest = some p → ∃ a, t.users.find? p.userId = some a

/-- **What a call does to the tables**: nothing, or all that it is for. -/
inductive Change : Store.Call → Tables → Tables → Prop
  | nothing {c : Store.Call} {t : Tables} : Change c t t
  | opened {n : Store.Newcomer} {i : Invitation} {t : Tables} {id : Int64} :
    t.users.find? id = none → t.invitations.find? i.digest = none →
    Change (.createAndInvite n i) t ((t.withUser id n).withInvitation id i)
  | invited {userId : Int64} {i : Invitation} {t : Tables} {a : Account} :
    t.users.find? userId = some a → t.invitations.find? i.digest = none →
    Change (.createInvitation userId i) t (t.withInvitation userId i)
  | activated {digest : String} {now : Instant} {t : Tables} {p : Store.Pending} {a : Account} :
    t.invitations.find? digest = some p → now.before p.expiresAt = true →
    t.users.find? p.userId = some a →
    Change (.activate digest now) t ((t.withoutInvitation digest).withActive p.userId a)

variable {t t' : Tables} {c : Store.Call}

/-- What does not touch the tables leaves them as they are. -/
theorem Does.of_untouched {s : Statement} {r : Reply} (does : Does s r t t')
    (untouched : s.touches = false) : t' = t := by
  cases does with
  | untouched => rfl
  | unmatched => rfl
  | absent => rfl
  | opened => cases untouched
  | invited => cases untouched
  | consumed => cases untouched
  | activated => cases untouched

/-- An invitation that is gone has activated its account. -/
theorem Change.uses (change : Change c t t') {digest : String} {p : Store.Pending}
    (before : t.invitations.find? digest = some p) (after : t'.invitations.find? digest = none) :
    ∃ a, t'.users.find? p.userId = some a ∧ a.active = true := by
  cases change with
  | nothing =>
    rw [before] at after
    cases after
  | opened fresh unused =>
    simp only [invitation_withInvitation, invitation_withUser] at after
    split at after
    · cases after
    · rw [before] at after
      cases after
  | invited known unused =>
    rw [invitation_withInvitation] at after
    split at after
    · cases after
    · rw [before] at after
      cases after
  | @activated digest' now _ p' a stands early known =>
    simp only [invitation_withActive, invitation_withoutInvitation] at after
    split at after
    · next same =>
      subst same
      rw [before] at stands
      cases stands
      exact ⟨{ a with active := true }, by simp, rfl⟩
    · rw [before] at after
      cases after

/-- **No call leaves an account without its invitation**, unless it is active. -/
theorem Change.sound (change : Change c t t') (sound : t.Sound) : t'.Sound := by
  cases change with
  | nothing => exact sound
  | @opened n i _ id fresh unused =>
    constructor
    · intro id' a found idle
      simp only [user_withInvitation, user_withUser] at found
      split at found
      · next same =>
        exact ⟨i.digest, ⟨id, i.expiresAt⟩, by simp, same⟩
      · obtain ⟨digest, p, stands, names⟩ := sound.invited id' a found idle
        refine ⟨digest, p, ?_, names⟩
        simp only [invitation_withInvitation, invitation_withUser]
        rw [if_neg, stands]
        rintro rfl
        rw [unused] at stands
        cases stands
    · intro digest p stands
      simp only [invitation_withInvitation, invitation_withUser] at stands
      split at stands
      · cases stands
        exact ⟨⟨n, false⟩, by simp⟩
      · obtain ⟨a, known⟩ := sound.known digest p stands
        simp only [user_withInvitation, user_withUser]
        split
        · exact ⟨_, rfl⟩
        · exact ⟨a, known⟩
  | @invited userId i _ a known unused =>
    constructor
    · intro id' a' found idle
      obtain ⟨digest, p, stands, names⟩ := sound.invited id' a' found idle
      refine ⟨digest, p, ?_, names⟩
      rw [invitation_withInvitation, if_neg, stands]
      rintro rfl
      rw [unused] at stands
      cases stands
    · intro digest p stands
      rw [invitation_withInvitation] at stands
      split at stands
      · cases stands
        exact ⟨a, known⟩
      · exact sound.known digest p stands
  | @activated digest now _ p a stands early known =>
    constructor
    · intro id' a' found idle
      simp only [user_withActive, user_withoutInvitation] at found
      split at found
      · cases found
        cases idle
      · next other =>
        obtain ⟨digest', p', stands', names⟩ := sound.invited id' a' found idle
        refine ⟨digest', p', ?_, names⟩
        simp only [invitation_withActive, invitation_withoutInvitation]
        rw [if_neg, stands']
        rintro rfl
        rw [stands] at stands'
        cases stands'
        exact other names
    · intro digest' p' stands'
      simp only [invitation_withActive, invitation_withoutInvitation] at stands'
      split at stands'
      · cases stands'
      · obtain ⟨a', known'⟩ := sound.known digest' p' stands'
        simp only [user_withActive, user_withoutInvitation]
        split
        · exact ⟨_, rfl⟩
        · exact ⟨a', known'⟩

/-! ### Calls -/

/-- All of the work of opening an account. -/
theorem works_opened {n : Store.Newcomer} {i : Invitation} {u : User} {begun : Statement × Reply}
    {inside : Transcript} (opened : Opened n i (begun :: inside) u) (works : Works Does inside t t') :
    ∃ id, t.users.find? id = none ∧ t.invitations.find? i.digest = none ∧
      t' = (t.withUser id n).withInvitation id i := by
  cases opened with
  | mk _ named _ _ =>
    obtain ⟨t₁, first, t₂, second, t₃, third, rfl⟩ := works
    cases third with
    | untouched =>
    cases second with
    | invited known unused =>
      cases first with
      | opened fresh names =>
        cases names _ _ _ rfl named
        exact ⟨_, fresh, unused, rfl⟩
      | untouched untouched => cases untouched
    | untouched untouched => cases untouched

/-- All of the work of activating an account. -/
theorem works_activated {digest : String} {now : Instant} {id : Int64} {begun : Statement × Reply}
    {inside : Transcript} (activated : Activated digest now (begun :: inside) id)
    (works : Works Does inside t t') (sound : t.Sound) :
    ∃ p a, t.invitations.find? digest = some p ∧ now.before p.expiresAt = true ∧ p.userId = id ∧
      t.users.find? id = some a ∧ t' = (t.withoutInvitation digest).withActive id a := by
  cases activated with
  | mk _ named _ =>
    obtain ⟨t₁, first, t₂, second, rfl⟩ := works
    cases first with
    | consumed stands early names =>
      cases names _ _ _ rfl named
      obtain ⟨a, known⟩ := sound.known _ _ stands
      cases second with
      | activated known' =>
        rw [user_withoutInvitation, known] at known'
        cases known'
        exact ⟨_, a, stands, early, rfl, known, rfl⟩
      | absent absent =>
        rw [user_withoutInvitation, known] at absent
        cases absent
      | untouched untouched => cases untouched
    | unmatched _ yieldless => exact absurd rfl (yieldless _ _)
    | untouched untouched => cases untouched

end Tables

/-- A conversation that sends one statement. -/
def SendsOnly {α : Type} (t : Talk α) (s : Statement) : Prop :=
  ∃ F : Reply → α, t = .send s fun r => .done (F r)

theorem find_sendsOnly {α : Type} (limit : Duration) (s : Statement)
    (read : Row → Except Database.Error α) : SendsOnly (find limit s read) s := by
  refine ⟨fun r => (grasp limit (first read) r).mapError (·.error), ?_⟩
  show Talk.send s _ = Talk.send s _
  congr 1
  funext r
  cases r with
  | rows rows =>
    cases rows with
    | nil => rfl
    | cons row rest =>
      show (check (read row)).run.bind _ = .done (((read row).mapError _).mapError _)
      cases read row <;> rfl
  | done n => rfl
  | failed e => rfl
  | late => rfl

theorem execute_sendsOnly {α : Type} (limit : Duration) (s : Statement)
    (f : Nat → Except Database.Error α) :
    SendsOnly (result (execute limit s >>= fun n => check (f n))) s := by
  refine ⟨fun r => (grasp limit (fun x => f x.2) r).mapError (·.error), ?_⟩
  show Talk.send s _ = Talk.send s _
  congr 1
  funext r
  cases r with
  | rows rows =>
    show (check (f rows.length)).run.bind _ = .done (((f rows.length).mapError _).mapError _)
    cases f rows.length <;> rfl
  | done n =>
    show (check (f n)).run.bind _ = .done (((f n).mapError _).mapError _)
    cases f n <;> rfl
  | failed e => rfl
  | late => rfl

/-- **A call that takes no transaction** sends one statement at most, and no statement on accounts or
invitations but for a further invitation. -/
theorem perform_alone (limit : Duration) (c : Store.Call) :
    (∃ n i, c = .createAndInvite n i) ∨ (∃ digest now, c = .activate digest now) ∨
    (∃ a, perform limit c = .done a) ∨ ∃ s, SendsOnly (perform limit c) s ∧ s.works = true ∧
      (s.touches = false ∨ ∃ userId i, s = .insertInvitation userId i ∧ c = .createInvitation userId i) := by
  have alone : ∀ s, SendsOnly (perform limit c) s → s.works = true → s.touches = false →
      (∃ n i, c = .createAndInvite n i) ∨ (∃ digest now, c = .activate digest now) ∨
      (∃ a, perform limit c = .done a) ∨ ∃ s, SendsOnly (perform limit c) s ∧ s.works = true ∧
        (s.touches = false ∨
          ∃ userId i, s = .insertInvitation userId i ∧ c = .createInvitation userId i) :=
    fun s only works untouched => .inr (.inr (.inr ⟨s, only, works, .inl untouched⟩))
  cases c with
  | userById id => exact alone _ (find_sendsOnly ..) rfl rfl
  | credentials email => exact alone _ (find_sendsOnly ..) rfl rfl
  | createAndInvite n i => exact .inl ⟨n, i, rfl⟩
  | roleByName name => exact alone _ (find_sendsOnly ..) rfl rfl
  | createInvitation userId i =>
    exact .inr (.inr (.inr ⟨_, execute_sendsOnly limit (.insertInvitation userId i) fun _ => .ok (), rfl,
      .inr ⟨userId, i, rfl, rfl⟩⟩))
  | activate digest now => exact .inr (.inl ⟨digest, now, rfl⟩)
  | createPost draft => exact alone _ (find_sendsOnly ..) rfl rfl
  | postById id => exact alone _ (find_sendsOnly ..) rfl rfl
  | updatePost id patch => exact alone _ (find_sendsOnly ..) rfl rfl
  | deletePost id =>
    have same : (fun n : Nat => (if n = 0 then check (.error .rowNotFound) else pure () : Query Unit)) =
        fun n => check (if n = 0 then .error .rowNotFound else .ok ()) := by
      funext n
      split <;> rfl
    refine alone (.deletePost id) ?_ rfl rfl
    have only := execute_sendsOnly limit (.deletePost id) fun n =>
      if n = 0 then .error .rowNotFound else .ok ()
    rwa [← same] at only
  | follow follower user =>
    by_cases self : follower = user
    · exact .inr (.inr (.inl ⟨.error (.conflict "self"), if_pos self⟩))
    · refine alone (.insertFollower user follower) ?_ rfl rfl
      rw [perform, if_neg self]
      exact execute_sendsOnly limit (.insertFollower user follower) fun _ => .ok ()
  | unfollow follower user =>
    by_cases self : follower = user
    · exact .inr (.inr (.inl ⟨.error (.conflict "self"), if_pos self⟩))
    · refine alone (.deleteFollower user follower) ?_ rfl rfl
      rw [perform, if_neg self]
      exact execute_sendsOnly limit (.deleteFollower user follower) fun _ => .ok ()

/-! ### What is kept -/

section Kept

variable {σ : Type} {server : σ → Statement → Reply × σ} {v : View σ Tables} {limit : Duration} {x y : σ}
  {said : Transcript}

/-- What is kept when an account was opened. -/
theorem opened_of_ok (server_ok : Transactional server v Tables.Does) {n : Store.Newcomer} {i : Invitation}
    {u : User} (goes : (perform limit (.createAndInvite n i)).Goes said (.ok u))
    (told : Talk.Told server x said y) :
    ∃ id, (v.kept x).users.find? id = none ∧ (v.kept x).invitations.find? i.digest = none ∧
      v.kept y = ((v.kept x).withUser id n).withInvitation id i := by
  cases server_ok.transaction_kept (createAndInvite_careful n i)
    (fun _ _ goes => absurd goes createAndInvite_not_undone) goes told with
  | all went works => exact Tables.works_opened (opened_of_goes (.done 0) rfl went) works

/-- What is kept when an account was activated. -/
theorem activated_of_ok (server_ok : Transactional server v Tables.Does) (sound : (v.kept x).Sound)
    {digest : String} {now : Instant} {id : Int64}
    (goes : (perform limit (.activate digest now)).Goes said (.ok id)) (told : Talk.Told server x said y) :
    ∃ p a, (v.kept x).invitations.find? digest = some p ∧ now.before p.expiresAt = true ∧ p.userId = id ∧
      (v.kept x).users.find? id = some a ∧
      v.kept y = ((v.kept x).withoutInvitation digest).withActive id a := by
  cases server_ok.transaction_kept (activate_careful digest now) (fun _ _ goes => activate_undone goes)
    goes told with
  | all went works => exact Tables.works_activated (activated_of_goes (.done 0) rfl went) works sound

/-- **A call keeps nothing, or all that it is for.** -/
theorem call_change (server_ok : Transactional server v Tables.Does) (sound : (v.kept x).Sound)
    (fresh : v.draft x = none) {c : Store.Call} {out : Except Store.Error c.Answer}
    (goes : (perform limit c).Goes said out) (told : Talk.Told server x said y) :
    Tables.Change c (v.kept x) (v.kept y) := by
  rcases perform_alone limit c with ⟨n, i, rfl⟩ | ⟨digest, now, rfl⟩ | ⟨a, done⟩ | ⟨s, ⟨F, sends⟩, working, for'⟩
  · have whole : ∀ {inside u}, (createAndInvite limit n i).run.Goes inside (.ok (.keep u)) →
        Works Tables.Does inside (v.kept x) (v.kept y) →
        Tables.Change (.createAndInvite n i) (v.kept x) (v.kept y) := by
      intro inside u went works
      obtain ⟨id, unknown, unused, after⟩ :=
        Tables.works_opened (opened_of_goes (.done 0) rfl went) works
      rw [after]
      exact .opened unknown unused
    cases server_ok.transaction_kept (createAndInvite_careful n i)
      (fun _ _ goes => absurd goes createAndInvite_not_undone) goes told with
    | nothing same =>
      rw [same]
      exact .nothing
    | unknown went works _ => exact whole went works
    | all went works => exact whole went works
  · have whole : ∀ {inside id}, (activate limit digest now).run.Goes inside (.ok (.keep id)) →
        Works Tables.Does inside (v.kept x) (v.kept y) →
        Tables.Change (.activate digest now) (v.kept x) (v.kept y) := by
      intro inside id went works
      obtain ⟨p, a, stands, early, rfl, known, after⟩ :=
        Tables.works_activated (activated_of_goes (.done 0) rfl went) works sound
      rw [after]
      exact .activated stands early known
    cases server_ok.transaction_kept (activate_careful digest now) (fun _ _ goes => activate_undone goes)
      goes told with
    | nothing same =>
      rw [same]
      exact .nothing
    | unknown went works _ => exact whole went works
    | all went works => exact whole went works
  · rw [done] at goes
    obtain ⟨rfl, -⟩ := goes
    obtain rfl : y = x := told
    exact .nothing
  · rw [sends] at goes
    obtain ⟨r, rest, rfl, rfl, -⟩ := goes
    obtain ⟨-, rfl⟩ := told
    rcases server_ok.alone_kept x s working fresh with same | ⟨r, does⟩
    · rw [same]
      exact .nothing
    rcases for' with untouched | ⟨userId, i, rfl, rfl⟩
    · rw [does.of_untouched untouched]
      exact .nothing
    · generalize after : v.kept (server x (.insertInvitation userId i)).2 = t' at does ⊢
      cases does with
      | invited known unused => exact .invited known unused
      | untouched untouched => cases untouched

end Kept
end Gatehouse.Database
