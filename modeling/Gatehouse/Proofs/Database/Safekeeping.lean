import Gatehouse.Proofs.Database.Tables
import Gatehouse.Proofs.Table

/-!
Accounts and invitations are kept together.

* `Serves.sound`, `Serves.invitations`: what holds of the tables through any calls.
* `transactions_all_or_nothing`: opening and activating accounts is all or nothing, for every reply that a
  server may give, and so no account goes without its invitation and no invitation is used up in vain.
* `Session`: a server of its own, in which nothing is assumed.
-/

namespace Gatehouse.Database

/-! ### Calls one after another -/

section Serves

variable {σ : Type} {server : σ → Statement → Reply × σ} {v : View σ Tables} {limit : Duration} {x y : σ}

/-- Calls one after another. Each gets a connection without an open transaction; whatever else was left open
is discarded. -/
inductive Serves (limit : Duration) (server : σ → Statement → Reply × σ) (v : View σ Tables) :
    σ → σ → Prop
  | start {x : σ} : Serves limit server v x x
  | call {x y z : σ} (c : Store.Call) : Serves limit server v x y → v.kept z = v.kept y →
      v.draft z = none → Serves limit server v x ((perform limit c).run server z).2.2

/-- A call with a server keeps nothing, or all that it is for. -/
theorem run_change (server_ok : Transactional server v Tables.Does) (sound : (v.kept x).Sound)
    (fresh : v.draft x = none) (c : Store.Call) :
    Tables.Change c (v.kept x) (v.kept ((perform limit c).run server x).2.2) := by
  obtain ⟨said, goes, -, told⟩ := Talk.run_goes server (perform limit c) x
  exact call_change server_ok sound fresh goes told

/-- **Through any calls, no account goes without its invitation** until it is active. -/
theorem Serves.sound (server_ok : Transactional server v Tables.Does) (sound : (v.kept x).Sound)
    (serves : Serves limit server v x y) : (v.kept y).Sound := by
  induction serves with
  | start => exact sound
  | @call y z c _ same fresh ih =>
    rw [← same] at ih
    exact (run_change server_ok ih fresh c).sound ih

/-- Active accounts stay active. -/
theorem Tables.Change.active {t t' : Tables} {c : Store.Call} (change : Change c t t') {id : Int64}
    {a : Account} (found : t.users.find? id = some a) (active : a.active = true) :
    ∃ a', t'.users.find? id = some a' ∧ a'.active = true := by
  cases change with
  | nothing => exact ⟨a, found, active⟩
  | @opened n i _ id' fresh unused =>
    refine ⟨a, ?_, active⟩
    simp only [user_withInvitation, user_withUser]
    rw [if_neg, found]
    rintro rfl
    rw [fresh] at found
    cases found
  | invited known unused => exact ⟨a, found, active⟩
  | @activated digest now _ p a' stands early known =>
    simp only [user_withActive, user_withoutInvitation]
    split
    · exact ⟨_, rfl, rfl⟩
    · exact ⟨a, found, active⟩

/-- An invitation stays as it is, or it is gone. -/
theorem Tables.Change.keeps {t t' : Tables} {c : Store.Call} (change : Change c t t') {digest : String}
    {p : Store.Pending} (stands : t.invitations.find? digest = some p) :
    t'.invitations.find? digest = some p ∨ t'.invitations.find? digest = none := by
  have other : ∀ (i : Invitation) (userId : Int64), t.invitations.find? i.digest = none →
      (if i.digest = digest then some (⟨userId, i.expiresAt⟩ : Store.Pending)
        else t.invitations.find? digest) = some p := by
    intro i userId unused
    rw [if_neg, stands]
    rintro rfl
    rw [unused] at stands
    cases stands
  cases change with
  | nothing => exact .inl stands
  | opened fresh unused =>
    simp only [invitation_withInvitation, invitation_withUser]
    exact .inl (other _ _ unused)
  | invited known unused =>
    rw [invitation_withInvitation]
    exact .inl (other _ _ unused)
  | activated =>
    simp only [invitation_withActive, invitation_withoutInvitation]
    split
    · exact .inr rfl
    · exact .inl stands

/-- **Through any calls, no invitation is used up in vain**: it stands, or its account is active. -/
theorem Serves.invitations (server_ok : Transactional server v Tables.Does) (sound : (v.kept x).Sound)
    (serves : Serves limit server v x y) {digest : String} {p : Store.Pending}
    (stood : (v.kept x).invitations.find? digest = some p) :
    (v.kept y).invitations.find? digest = some p ∨
      ∃ a, (v.kept y).users.find? p.userId = some a ∧ a.active = true := by
  induction serves with
  | start => exact .inl stood
  | @call y z c before same fresh ih =>
    have change : Tables.Change c (v.kept z) (v.kept ((perform limit c).run server z).2.2) :=
      run_change server_ok (same ▸ before.sound server_ok sound) fresh c
    rw [← same] at ih
    rcases ih with stands | ⟨a, found, active⟩
    · rcases change.keeps stands with stands' | gone
      · exact .inl stands'
      · exact .inr (change.uses stands gone)
    · exact .inr (change.active found active)

end Serves

/-! ### A server -/

/-- Tables with the open transaction of a connection. -/
structure Session where
  kept : Tables
  draft : Option Tables
deriving DecidableEq

/-- A statement on accounts or invitations, done or refused. Others are not known. -/
def Tables.exec (t : Tables) : Statement → Reply × Tables
  | .insertUser n =>
    let id := Int64.ofNat (t.users.size + 1)
    if t.users.find? id = none then (.rows [[("id", .int8 id)]], t.withUser id n)
    else (.failed (.rejected uniqueViolation none ""), t)
  | .insertInvitation userId i =>
    if t.users.find? userId = none then (.failed (.rejected referenceViolation none ""), t)
    else if t.invitations.find? i.digest = none then (.done 1, t.withInvitation userId i)
    else (.failed (.rejected uniqueViolation none ""), t)
  | .consumeInvitation digest now =>
    match t.invitations.find? digest with
    | none => (.rows [], t)
    | some p =>
      if now.before p.expiresAt then
        (.rows [[("user_id", .int8 p.userId)]], t.withoutInvitation digest)
      else (.rows [], t)
  | .activateUser id =>
    match t.users.find? id with
    | none => (.done 0, t)
    | some a => (.done 1, t.withActive id a)
  | _ => (.failed (.protocol "no such statement"), t)

/-- The tables as a server: statements work on the open transaction if there is one. -/
def Session.serve (x : Session) : Statement → Reply × Session
  | .begin => (.done 0, ⟨x.kept, some x.kept⟩)
  | .commit => (.done 0, ⟨x.draft.getD x.kept, none⟩)
  | .rollback => (.done 0, ⟨x.kept, none⟩)
  | s =>
    match x.draft with
    | some t => ((t.exec s).1, ⟨x.kept, some (t.exec s).2⟩)
    | none => ((x.kept.exec s).1, ⟨(x.kept.exec s).2, none⟩)

/-- What a session keeps, and what its transaction sees. -/
def Session.view : View Session Tables := ⟨Session.kept, Session.draft⟩

/-- A statement is done, or it is refused and changes nothing. -/
theorem Tables.exec_does (t : Tables) (s : Statement) :
    Does s (t.exec s).1 t (t.exec s).2 ∨ ((t.exec s).1.succeeds = false ∧ (t.exec s).2 = t) := by
  cases s with
  | insertUser n =>
    simp only [exec]
    split
    · next fresh =>
      refine .inl (.opened fresh ?_)
      rintro row rows id' same named
      cases same
      cases named
      rfl
    · exact .inr ⟨rfl, rfl⟩
  | insertInvitation userId i =>
    simp only [exec]
    split
    · exact .inr ⟨rfl, rfl⟩
    next known =>
      split
      · next unused =>
        obtain ⟨a, found⟩ := Option.ne_none_iff_exists'.mp known
        exact .inl (.invited found unused)
      · exact .inr ⟨rfl, rfl⟩
  | consumeInvitation digest now =>
    simp only [exec]
    split
    · next absent =>
      refine .inl (.unmatched ?_ ?_)
      · intro p stands
        rw [absent] at stands
        cases stands
      · rintro row rows ⟨⟩
    · next p stands =>
      split
      · next early =>
        refine .inl (.consumed stands early ?_)
        rintro row rows id' same named
        cases same
        cases named
        rfl
      · next late =>
        refine .inl (.unmatched ?_ ?_)
        · intro p' stands'
          rw [stands] at stands'
          cases stands'
          simpa using late
        · rintro row rows ⟨⟩
  | activateUser id =>
    simp only [exec]
    split
    · next absent => exact .inl (.absent absent)
    · next a found => exact .inl (.activated found)
  | _ => exact .inr ⟨rfl, rfl⟩

/-- **A session discards uncommitted work.** -/
theorem Session.transactional : Transactional Session.serve Session.view Tables.Does := by
  have working : ∀ (x : Session) (s : Statement), s.works = true → x.serve s = match x.draft with
      | some t => ((t.exec s).1, ⟨x.kept, some (t.exec s).2⟩)
      | none => ((x.kept.exec s).1, ⟨(x.kept.exec s).2, none⟩) := by
    intro x s works
    cases s with
    | begin => cases works
    | commit => cases works
    | rollback => cases works
    | _ => rfl
  constructor
  · intro x
    rfl
  · intro x _
    rfl
  · intro x s t works seen
    rw [working x s works, show x.draft = some t from seen]
    rfl
  · intro x s t works seen came
    rw [working x s works, show x.draft = some t from seen] at came ⊢
    rcases t.exec_does s with does | ⟨refused, -⟩
    · exact ⟨(t.exec s).2, does, rfl⟩
    · rw [refused] at came
      cases came
  · intro x t seen
    refine .inl ?_
    show x.draft.getD x.kept = t
    rw [show x.draft = some t from seen]
    rfl
  · intro x
    rfl
  · intro x s works idle
    rw [working x s works, show x.draft = none from idle]
    rcases x.kept.exec_does s with does | ⟨-, same⟩
    · exact .inr ⟨_, does⟩
    · exact .inl same

/-! ### All or nothing -/

/-- A transaction that sends no COMMIT keeps nothing. -/
theorem kept_of_uncommitted {α σ τ : Type} {server : σ → Statement → Reply × σ} {v : View σ τ}
    {Does : Statement → Reply → τ → τ → Prop} (server_ok : Transactional server v Does)
    {limit : Duration} {body : Query (Verdict α)} {Ready : Transcript → α → Prop}
    (careful : Careful limit body)
    (undo : ∀ said e, body.run.Goes said (.ok (.undo e)) → Breaks limit said e)
    (whole : AllOrNothing limit (transaction limit body) Ready) (x : σ)
    (uncommitted : Statement.commit ∉ ((transaction limit body).run server x).2.1) :
    v.kept ((transaction limit body).run server x).2.2 = v.kept x := by
  obtain ⟨said, goes, sent, told⟩ := Talk.run_goes server (transaction limit body) x
  rw [← sent] at uncommitted
  generalize ((transaction limit body).run server x).1 = out at goes
  cases server_ok.transaction_kept careful undo goes told with
  | nothing same => exact same
  | unknown _ _ mem => exact absurd (List.mem_map_of_mem mem) uncommitted
  | all _ _ =>
    obtain ⟨r, mem, -⟩ := (whole.result said _ goes).mp ⟨_, rfl⟩
    exact absurd (List.mem_map_of_mem mem) uncommitted

/-- **Opening an account and activating one are all or nothing**, whatever is replied to each statement.

* COMMIT is sent only after every statement before it was done in time and every column that is needed was
  read: an account was opened, its invitation put down and the user read back; or an invitation was taken away
  and the account activated that stood on it. There is a result if and only if COMMIT was done in time, and a
  failure is the one of the step that failed.
* An activation that nothing matches finds nothing, whatever comes of undoing it.
* With a server that discards uncommitted work, whatever it keeps, a call that has sent no COMMIT has changed
  nothing.
* With a server of accounts and invitations, a result means that all was done. Through any calls, every account
  is active or has an invitation that stands, and every invitation stands or has its account activated. -/
theorem transactions_all_or_nothing (limit : Duration) :
    (∀ n i, AllOrNothing limit (perform limit (.createAndInvite n i)) (Opened n i)) ∧
    (∀ digest now, AllOrNothing limit (perform limit (.activate digest now)) (Activated digest now)) ∧
    (∀ digest now said x r, (perform limit (.activate digest now)).Goes said x →
      (.consumeInvitation digest now, r) ∈ said → r.succeeds = true → r.Yieldless →
      x = .error .notFound) ∧
    (∀ (σ τ : Type) (server : σ → Statement → Reply × σ) (v : View σ τ)
      (Does : Statement → Reply → τ → τ → Prop), Transactional server v Does → ∀ x : σ,
      (∀ n i, Statement.commit ∉ ((perform limit (.createAndInvite n i)).run server x).2.1 →
        v.kept ((perform limit (.createAndInvite n i)).run server x).2.2 = v.kept x) ∧
      (∀ digest now, Statement.commit ∉ ((perform limit (.activate digest now)).run server x).2.1 →
        v.kept ((perform limit (.activate digest now)).run server x).2.2 = v.kept x)) ∧
    (∀ (σ : Type) (server : σ → Statement → Reply × σ) (v : View σ Tables),
      Transactional server v Tables.Does → ∀ x : σ, (v.kept x).Sound →
      (∀ n i u, ((perform limit (.createAndInvite n i)).run server x).1 = .ok u →
        ∃ id, (v.kept x).users.find? id = none ∧ (v.kept x).invitations.find? i.digest = none ∧
          v.kept ((perform limit (.createAndInvite n i)).run server x).2.2 =
            ((v.kept x).withUser id n).withInvitation id i) ∧
      (∀ digest now id, ((perform limit (.activate digest now)).run server x).1 = .ok id →
        ∃ p a, (v.kept x).invitations.find? digest = some p ∧ now.before p.expiresAt = true ∧
          p.userId = id ∧ (v.kept x).users.find? id = some a ∧
          v.kept ((perform limit (.activate digest now)).run server x).2.2 =
            ((v.kept x).withoutInvitation digest).withActive id a) ∧
      ∀ y, Serves limit server v x y → (v.kept y).Sound ∧
        ∀ digest p, (v.kept x).invitations.find? digest = some p →
          (v.kept y).invitations.find? digest = some p ∨
            ∃ a, (v.kept y).users.find? p.userId = some a ∧ a.active = true) := by
  refine ⟨createAndInvite_allOrNothing, activate_allOrNothing, ?_, ?_, ?_⟩
  · intro digest now said x r goes asked came unmatched
    exact activate_unmatched goes asked came unmatched
  · intro σ τ server v Does server_ok x
    constructor
    · intro n i uncommitted
      exact kept_of_uncommitted server_ok (createAndInvite_careful n i)
        (fun _ _ goes => absurd goes createAndInvite_not_undone) (createAndInvite_allOrNothing n i) x
        uncommitted
    · intro digest now uncommitted
      exact kept_of_uncommitted server_ok (activate_careful digest now) (fun _ _ => activate_undone)
        (activate_allOrNothing digest now) x uncommitted
  · intro σ server v server_ok x sound
    refine ⟨?_, ?_, ?_⟩
    · intro n i u result
      obtain ⟨said, goes, -, told⟩ := Talk.run_goes server (perform limit (.createAndInvite n i)) x
      rw [result] at goes
      exact opened_of_ok server_ok goes told
    · intro digest now id result
      obtain ⟨said, goes, -, told⟩ := Talk.run_goes server (perform limit (.activate digest now)) x
      rw [result] at goes
      exact activated_of_ok server_ok sound goes told
    · intro y serves
      refine ⟨serves.sound server_ok sound, ?_⟩
      intro digest p stood
      exact serves.invitations server_ok sound stood

/-- One account whose invitation stands for a minute. -/
def Tables.waiting : Tables where
  users := Table.empty.insert 7 ⟨⟨"n", "e", "h", "user"⟩, false⟩
  invitations := Table.empty.insert "d" ⟨7, (Instant.epoch.after? (Duration.ofSecs 60)).getD .epoch⟩

theorem Tables.waiting_sound : waiting.Sound := by
  constructor
  · intro id a found _
    obtain ⟨rfl, -⟩ | ⟨-, found⟩ := Table.find?_insert_eq_some found
    · exact ⟨"d", _, rfl, rfl⟩
    · cases found
  · intro digest p stands
    obtain ⟨-, rfl⟩ | ⟨-, stands⟩ := Table.find?_insert_eq_some stands
    · exact ⟨_, rfl⟩
    · cases stands

/-- An invitation that nobody has changes nothing. The one that stands activates its account, and after that
every account is active or has its invitation still. -/
theorem transactions_all_or_nothing_waiting :
    ((perform (Duration.ofSecs 1) (.activate "x" .epoch)).run Session.serve ⟨Tables.waiting, none⟩).1 =
      .error .notFound ∧
    ((perform (Duration.ofSecs 1) (.activate "x" .epoch)).run Session.serve
      ⟨Tables.waiting, none⟩).2.2.kept = Tables.waiting ∧
    ((perform (Duration.ofSecs 1) (.activate "d" .epoch)).run Session.serve ⟨Tables.waiting, none⟩).1 =
      .ok 7 ∧
    ((perform (Duration.ofSecs 1) (.activate "d" .epoch)).run Session.serve
      ⟨Tables.waiting, none⟩).2.2.kept.Sound := by
  obtain ⟨-, -, -, discards, serves⟩ := transactions_all_or_nothing (Duration.ofSecs 1)
  refine ⟨rfl, ?_, rfl, ?_⟩
  · exact (discards _ _ _ _ _ Session.transactional ⟨Tables.waiting, none⟩).2 "x" .epoch (by decide)
  · obtain ⟨-, -, through⟩ := serves _ _ _ Session.transactional ⟨Tables.waiting, none⟩ Tables.waiting_sound
    exact (through _ (.call (.activate "d" .epoch) .start rfl rfl)).1

end Gatehouse.Database
