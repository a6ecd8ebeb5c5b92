import Gatehouse.Proofs.Database.Transcript

/-!
Transactions, and the two calls of storage that take one.

* `transaction_goes`: how a transaction begins and ends.
* `Careful`: a body that goes on only as long as everything succeeds, and breaks off for what fails.
* `transaction_allOrNothing`: with a careful body, COMMIT is sent only after all of it was done, a result
  means that COMMIT was done in time, and a failure is the one of the step that failed.
* `createAndInvite_allOrNothing`, `activate_allOrNothing`: opening an account and activating one.
-/

namespace Gatehouse.Database

open Query

variable {α β : Type} {limit : Duration} {said : Transcript}

/-! ### How transactions go -/

/-- How a transaction is left that does not come to its end: undone, or with its connection. -/
def Left (rest : Transcript) : Prop := rest = [] ∨ ∃ r, rest = [(.rollback, r)]

/-- How a transaction goes: what is said, and what comes of it. -/
inductive Transacts (limit : Duration) (body : Query (Verdict α)) :
    Transcript → Except Store.Error α → Prop
  /-- It does not begin. -/
  | unbegun {r : Reply} {b : Break} : outcome limit r = .error b →
      Transacts limit body [(.begin, r)] (.error b.error)
  /-- It breaks off. -/
  | broken {r : Reply} {said rest : Transcript} {b : Break} : r.succeeds = true →
      body.run.Goes said (.error b) → Left rest →
      Transacts limit body ((.begin, r) :: (said ++ rest)) (.error b.error)
  /-- It is to be undone. -/
  | undone {r r' : Reply} {said rest : Transcript} {e : Store.Error} : r.succeeds = true →
      body.run.Goes said (.ok (.undo e)) → Left rest →
      Transacts limit body ((.begin, r) :: (said ++ (.rollback, r') :: rest)) (.error e)
  /-- It is to be kept, and is not known to be. -/
  | unkept {r r' : Reply} {said rest : Transcript} {a : α} {b : Break} : r.succeeds = true →
      body.run.Goes said (.ok (.keep a)) → outcome limit r' = .error b → Left rest →
      Transacts limit body ((.begin, r) :: (said ++ (.commit, r') :: rest)) (.error b.error)
  /-- It is kept. -/
  | kept {r r' : Reply} {said : Transcript} {a : α} : r.succeeds = true →
      body.run.Goes said (.ok (.keep a)) → r'.succeeds = true →
      Transacts limit body ((.begin, r) :: (said ++ [(.commit, r')])) (.ok a)

theorem forsake_goes {e : Store.Error} {lost : Bool} {x : Except Store.Error α}
    (goes : (forsake e lost).Goes said x) : x = .error e ∧ Left said := by
  unfold forsake at goes
  split at goes
  · obtain ⟨rfl, rfl⟩ := goes
    exact ⟨rfl, .inl rfl⟩
  · obtain ⟨r, rest, rfl, rfl, rfl⟩ := goes
    exact ⟨rfl, .inr ⟨r, rfl⟩⟩

/-- **How a transaction goes.** -/
theorem transaction_goes {body : Query (Verdict α)} {x : Except Store.Error α}
    (goes : (transaction limit body).Goes said x) : Transacts limit body said x := by
  obtain ⟨r, rest, rfl, goes⟩ := goes
  cases begun : outcome limit r with
  | error b =>
    simp only [begun] at goes
    obtain ⟨rfl, rfl⟩ := goes
    exact .unbegun begun
  | ok _ =>
    have started := outcome_eq_ok begun
    simp only [begun] at goes
    obtain ⟨inside, verdict, after, rfl, went, ended⟩ := Talk.goes_bind.mp goes
    rcases verdict with b | ⟨a | e⟩
    · obtain ⟨rfl, left⟩ := forsake_goes ended
      exact .broken started went left
    · obtain ⟨r', rest, rfl, ended⟩ := ended
      cases told : outcome limit r' with
      | ok _ =>
        simp only [told] at ended
        obtain ⟨rfl, rfl⟩ := ended
        exact .kept started went (outcome_eq_ok told)
      | error b =>
        simp only [told] at ended
        obtain ⟨rfl, left⟩ := forsake_goes ended
        exact .unkept started went told left
    · obtain ⟨r', rest, rfl, ended⟩ := ended
      cases told : outcome limit r' with
      | ok _ =>
        simp only [told] at ended
        obtain ⟨rfl, rfl⟩ := ended
        exact .undone started went (.inl rfl)
      | error b =>
        simp only [told] at ended
        obtain ⟨rfl, left⟩ := forsake_goes ended
        exact .undone started went left

theorem Left.rollback {rest : Transcript} (left : Left rest) : ∀ e ∈ rest, e.1 = Statement.rollback := by
  rcases left with rfl | ⟨r, rfl⟩
  · intro e mem
    cases mem
  · intro e mem
    rw [List.mem_singleton.mp mem]

theorem Left.rollback_cons {rest : Transcript} {r : Reply} (left : Left rest) :
    ∀ e ∈ (.rollback, r) :: rest, e.1 = Statement.rollback := by
  intro e mem
  rcases List.mem_cons.mp mem with rfl | mem
  · rfl
  · exact left.rollback e mem

/-! ### Careful bodies -/

/-- Whether a statement does the work of a transaction, unlike those that begin it and end it. -/
def Statement.works : Statement → Bool
  | .begin | .commit | .rollback => false
  | _ => true

theorem Left.idle {rest : Transcript} (left : Left rest) : ∀ e ∈ rest, e.1.works = false := by
  intro e mem
  rw [left.rollback e mem]
  rfl

theorem idle_cons {rest : Transcript} {s : Statement} {r : Reply} (ending : s.works = false)
    (idle : ∀ e ∈ rest, e.1.works = false) : ∀ e ∈ (s, r) :: rest, e.1.works = false := by
  intro e mem
  rcases List.mem_cons.mp mem with rfl | mem
  · exact ending
  · exact idle e mem

/-- All statements were done in time. -/
def Done (said : Transcript) : Prop := ∀ e ∈ said, e.2.succeeds = true

/-- The last statement is at fault for a failure; those before it were done in time. -/
def Breaks (limit : Duration) (said : Transcript) (e : Store.Error) : Prop :=
  ∃ before s r, said = before ++ [(s, r)] ∧ Done before ∧ r.Fault limit e

/-- A query that only works, goes on as long as everything succeeds, and breaks off for what fails. -/
structure Careful (limit : Duration) (q : Query α) : Prop where
  works : ∀ said x, q.run.Goes said x → ∀ e ∈ said, e.1.works = true
  ok : ∀ said a, q.run.Goes said (.ok a) → Done said
  error : ∀ said b, q.run.Goes said (.error b) → Breaks limit said b.error

theorem Done.cons {e : Statement × Reply} (first : e.2.succeeds = true) (done : Done said) :
    Done (e :: said) := by
  intro e' mem
  rcases List.mem_cons.mp mem with rfl | mem
  · exact first
  · exact done e' mem

theorem Breaks.cons {e : Statement × Reply} {x : Store.Error} (first : e.2.succeeds = true)
    (breaks : Breaks limit said x) : Breaks limit (e :: said) x := by
  obtain ⟨before, s, r, rfl, done, fault⟩ := breaks
  exact ⟨e :: before, s, r, rfl, done.cons first, fault⟩

theorem Careful.pure (a : α) : Careful limit (pure a : Query α) := by
  constructor
  · rintro said x ⟨rfl, -⟩ e mem
    cases mem
  · rintro said a' ⟨rfl, -⟩ e mem
    cases mem
  · rintro said b ⟨-, absurd⟩
    cases absurd

/-- **A question, and a careful query on its answer.** -/
theorem Careful.ask {s : Statement} {read : List Row × Nat → Except Database.Error α} {f : α → Query β}
    (working : s.works = true) (plain : Plain read) (careful : ∀ a, Careful limit (f a)) :
    Careful limit (Query.ask limit s read >>= f) := by
  constructor
  · intro said x goes e mem
    obtain ⟨r, rest, rfl, ⟨b, -, rfl, -⟩ | ⟨a, -, next⟩⟩ := ask_goes.mp goes
    · rw [List.mem_singleton.mp mem]
      exact working
    · rcases List.mem_cons.mp mem with rfl | mem
      · exact working
      · exact (careful a).works rest x next e mem
  · intro said x goes
    obtain ⟨r, rest, rfl, ⟨b, -, -, absurd⟩ | ⟨a, grasped, next⟩⟩ := ask_goes.mp goes
    · cases absurd
    · obtain ⟨y, came, -⟩ := grasp_eq_ok grasped
      exact ((careful a).ok rest x next).cons (outcome_eq_ok came)
  · intro said b goes
    obtain ⟨r, rest, rfl, ⟨b', failed, rfl, same⟩ | ⟨a, grasped, next⟩⟩ := ask_goes.mp goes
    · cases same
      refine ⟨[], s, r, rfl, ?_, grasp_eq_error plain failed⟩
      intro e mem
      cases mem
    · obtain ⟨y, came, -⟩ := grasp_eq_ok grasped
      exact ((careful a).error rest b next).cons (outcome_eq_ok came)

/-! ### All or nothing -/

/-- What a failure is due to: a statement before which all were done in time, and after which nothing but
ROLLBACK was sent. -/
def Blames (limit : Duration) (said : Transcript) (e : Store.Error) : Prop :=
  ∃ before s r after, said = before ++ (s, r) :: after ∧ Done before ∧ s ≠ .rollback ∧ r.Fault limit e ∧
    ∀ e ∈ after, e.1 = .rollback

/-- A conversation that keeps all of its work or none of it. `Ready` says of what is said before COMMIT that it
is all of the work, and what the result of it is. -/
structure AllOrNothing (limit : Duration) (t : Talk (Except Store.Error α))
    (Ready : Transcript → α → Prop) : Prop where
  /-- COMMIT is sent only after all of the work was done. -/
  commit : ∀ said x r, t.Goes said x → (.commit, r) ∈ said → ∃ before after a,
    said = before ++ (.commit, r) :: after ∧ Done before ∧ Ready before a ∧ Left after ∧
      (r.succeeds = true → x = .ok a)
  /-- There is a result if and only if COMMIT was done in time. -/
  result : ∀ said x, t.Goes said x →
    ((∃ a, x = .ok a) ↔ ∃ r, (.commit, r) ∈ said ∧ r.succeeds = true)
  /-- A failure is the one of the step that failed. -/
  failure : ∀ said e, t.Goes said (.error e) → Blames limit said e

/-- A body of which nothing is to be kept blames its last statement. -/
theorem Breaks.blames {e : Store.Error} {r : Reply} {rest : Transcript} (breaks : Breaks limit said e)
    (works : ∀ e ∈ said, e.1.works = true) (begun : r.succeeds = true)
    (left : ∀ e ∈ rest, e.1 = Statement.rollback) : Blames limit ((.begin, r) :: (said ++ rest)) e := by
  obtain ⟨before, s, r', rfl, done, fault⟩ := breaks
  refine ⟨(.begin, r) :: before, s, r', rest, ?_, done.cons begun, ?_, fault, left⟩
  · simp
  · rintro rfl
    have := works (.rollback, r') (List.mem_append_right _ (.head _))
    cases this

theorem commit_not_mem {inside rest : Transcript} {r r' : Reply}
    (works : ∀ e ∈ inside, e.1.works = true) (left : ∀ e ∈ rest, e.1 = Statement.rollback) :
    (.commit, r) ∉ (.begin, r') :: (inside ++ rest) := by
  intro mem
  rcases List.mem_cons.mp mem with same | mem
  · cases same
  rcases List.mem_append.mp mem with mem | mem
  · cases works _ mem
  · cases left _ mem

/-- **A transaction with a careful body is all or nothing.** -/
theorem transaction_allOrNothing {body : Query (Verdict α)} {Ready : Transcript → α → Prop}
    (careful : Careful limit body)
    (undo : ∀ said e, body.run.Goes said (.ok (.undo e)) → Breaks limit said e)
    (keep : ∀ r said a, r.succeeds = true → body.run.Goes said (.ok (.keep a)) →
      Ready ((.begin, r) :: said) a) :
    AllOrNothing limit (transaction limit body) Ready := by
  have one : ∀ {r r' r'' : Reply} {inside rest : Transcript} {a : α},
      body.run.Goes inside (.ok (.keep a)) → Left rest →
      (.commit, r'') ∈ (.begin, r) :: (inside ++ (.commit, r') :: rest) → r'' = r' := by
    intro r r' r'' inside rest a went left mem
    rcases List.mem_cons.mp mem with same | mem
    · cases same
    rcases List.mem_append.mp mem with mem | mem
    · cases careful.works inside _ went _ mem
    rcases List.mem_cons.mp mem with same | mem
    · cases same
      rfl
    · cases left.rollback _ mem
  have commit : ∀ said x r, (transaction limit body).Goes said x → (.commit, r) ∈ said →
      ∃ before after a, said = before ++ (.commit, r) :: after ∧ Done before ∧ Ready before a ∧
        Left after ∧ (r.succeeds = true → x = .ok a) := by
    intro said x r goes sent
    cases transaction_goes goes with
    | unbegun _ => cases List.mem_singleton.mp sent
    | broken begun went left =>
      exact absurd sent (commit_not_mem (careful.works _ _ went) left.rollback)
    | undone begun went left =>
      exact absurd sent (commit_not_mem (careful.works _ _ went) left.rollback_cons)
    | @unkept r₀ r₁ inside rest a b begun went failed left =>
      obtain rfl := one went left sent
      refine ⟨(.begin, r₀) :: inside, rest, a, rfl, (careful.ok _ _ went).cons begun,
        keep r₀ inside a begun went, left, ?_⟩
      intro done
      rw [(outcome_eq_error failed).1] at done
      cases done
    | @kept r₀ r₁ inside a begun went done =>
      obtain rfl := one went (.inl rfl) sent
      exact ⟨(.begin, r₀) :: inside, [], a, rfl, (careful.ok _ _ went).cons begun,
        keep r₀ inside a begun went, .inl rfl, fun _ => rfl⟩
  refine ⟨commit, ?_, ?_⟩
  · intro said x goes
    constructor
    · rintro ⟨a, rfl⟩
      cases transaction_goes goes with
      | @kept r₀ r₁ inside _ begun went done =>
        exact ⟨r₁, List.mem_cons_of_mem _ (List.mem_append_right _ (.head _)), done⟩
    · rintro ⟨r, sent, done⟩
      obtain ⟨before, after, a, -, -, -, -, result⟩ := commit said x r goes sent
      exact ⟨a, result done⟩
  · intro said e goes
    cases transaction_goes goes with
    | @unbegun r b failed =>
      refine ⟨[], .begin, r, [], rfl, ?_, ?_, (outcome_eq_error failed).2, ?_⟩
      · intro e mem
        cases mem
      · simp
      · intro e mem
        cases mem
    | broken begun went left =>
      exact (careful.error _ _ went).blames (careful.works _ _ went) begun left.rollback
    | undone begun went left =>
      exact (undo _ _ went).blames (careful.works _ _ went) begun left.rollback_cons
    | @unkept r₀ r₁ inside rest a b begun went failed left =>
      refine ⟨(.begin, r₀) :: inside, .commit, r₁, rest, rfl, (careful.ok _ _ went).cons begun, ?_,
        (outcome_eq_error failed).2, left.rollback⟩
      simp

/-! ### Readers -/

/-- A row is not read for want of a column only. -/
def WantsColumn (x : Except Database.Error α) : Prop := ∀ e, x = .error e → ∃ name, e = .column name

theorem WantsColumn.ok (a : α) : WantsColumn (.ok a) := by
  rintro e ⟨⟩

theorem WantsColumn.bind {x : Except Database.Error α} {f : α → Except Database.Error β}
    (first : WantsColumn x) (second : ∀ a, WantsColumn (f a)) : WantsColumn (x >>= f) := by
  intro e failed
  cases x with
  | ok a => exact second a e failed
  | error e' =>
    cases failed
    exact first e rfl

theorem wantsColumn_get (row : Row) (read : Cell → Option α) (name : String) :
    WantsColumn (row.get read name) := by
  intro e failed
  unfold Row.get at failed
  split at failed
  · cases failed
  · cases failed
    exact ⟨name, rfl⟩

theorem wantsColumn_user (row : Row) : WantsColumn row.user := by
  apply WantsColumn.bind (wantsColumn_get _ _ _)
  intro id
  apply WantsColumn.bind (wantsColumn_get _ _ _)
  intro username
  apply WantsColumn.bind (wantsColumn_get _ _ _)
  intro email
  apply WantsColumn.bind (wantsColumn_get _ _ _)
  intro isActive
  apply WantsColumn.bind (wantsColumn_get _ _ _)
  intro createdAt
  apply WantsColumn.bind (wantsColumn_get _ _ _)
  intro roleId
  apply WantsColumn.bind (wantsColumn_get _ _ _)
  intro roleName
  apply WantsColumn.bind (wantsColumn_get _ _ _)
  intro roleDescription
  apply WantsColumn.bind (wantsColumn_get _ _ _)
  intro roleLevel
  exact .ok _

theorem plain_first {read : Row → Except Database.Error α} (wants : ∀ row, WantsColumn (read row)) :
    Plain (first read) := by
  intro x e failed
  unfold first at failed
  split at failed
  · next row head =>
    obtain ⟨name, rfl⟩ := wants row e failed
    exact .inr ⟨name, row, rfl, head⟩
  · next head =>
    cases failed
    exact .inl ⟨rfl, head⟩

theorem plain_first? {read : Row → Except Database.Error α} (wants : ∀ row, WantsColumn (read row)) :
    Plain (first? read) := by
  intro x e failed
  unfold first? at failed
  split at failed
  · next row head =>
    cases got : read row with
    | ok a =>
      rw [got] at failed
      cases failed
    | error e' =>
      rw [got] at failed
      cases failed
      obtain ⟨name, rfl⟩ := wants row e got
      exact .inr ⟨name, row, rfl, head⟩
  · cases failed

theorem plain_ok : Plain (.ok : List Row × Nat → Except Database.Error (List Row × Nat)) := by
  rintro x e ⟨⟩

/-! ### Opening an account -/

/-- The id of a new account. -/
def newId : List Row × Nat → Except Database.Error Int64 := first fun row => row.int8 "id"

theorem createAndInvite_eq (n : Store.Newcomer) (i : Invitation) :
    createAndInvite limit n i =
      ask limit (.insertUser n) newId >>= fun id =>
      ask limit (.insertInvitation id i) .ok >>= fun _ =>
      ask limit (.userById id) (first Row.user) >>= fun user =>
      pure (.keep user) := by
  simp only [createAndInvite, row_bind, execute_bind, newId]

/-- All of the work of opening an account: the account was opened, its invitation put down for the id that it
was given, and the user read back. -/
inductive Opened (n : Store.Newcomer) (i : Invitation) : Transcript → User → Prop
  | mk {begun invited : Reply} {row row' : Row} {rows rows' : List Row} {id : Int64} {u : User} :
    begun.succeeds = true → row.int8 "id" = .ok id → invited.succeeds = true → row'.user = .ok u →
    Opened n i [(.begin, begun), (.insertUser n, .rows (row :: rows)), (.insertInvitation id i, invited),
      (.userById id, .rows (row' :: rows'))] u

theorem createAndInvite_careful (n : Store.Newcomer) (i : Invitation) :
    Careful limit (createAndInvite limit n i) := by
  rw [createAndInvite_eq]
  apply Careful.ask rfl (plain_first fun row => wantsColumn_get _ _ _)
  intro id
  apply Careful.ask rfl plain_ok
  intro _
  apply Careful.ask rfl (plain_first wantsColumn_user)
  intro user
  exact .pure _

/-- An account that is to be kept was opened with all of its work. -/
theorem opened_of_goes {n : Store.Newcomer} {i : Invitation} {u : User} (begun : Reply)
    (started : begun.succeeds = true)
    (goes : (createAndInvite limit n i).run.Goes said (.ok (.keep u))) :
    Opened n i ((.begin, begun) :: said) u := by
  rw [createAndInvite_eq] at goes
  obtain ⟨r, _, rfl, ⟨_, -, -, absurd⟩ | ⟨id, named, goes⟩⟩ := ask_goes.mp goes
  · cases absurd
  obtain ⟨invited, _, rfl, ⟨_, -, -, absurd⟩ | ⟨_, put, goes⟩⟩ := ask_goes.mp goes
  · cases absurd
  obtain ⟨r', _, rfl, ⟨_, -, -, absurd⟩ | ⟨u', seen, rfl, same⟩⟩ := ask_goes.mp goes
  · cases absurd
  cases same
  obtain ⟨row, rows, rfl, isId⟩ := grasp_first_eq_ok named
  obtain ⟨row', rows', rfl, isUser⟩ := grasp_first_eq_ok seen
  obtain ⟨_, came, -⟩ := grasp_eq_ok put
  exact .mk started isId (outcome_eq_ok came) isUser

/-- Nothing of an account that is opened is ever to be undone. -/
theorem createAndInvite_not_undone {n : Store.Newcomer} {i : Invitation} {e : Store.Error} :
    ¬ (createAndInvite limit n i).run.Goes said (.ok (.undo e)) := by
  intro goes
  rw [createAndInvite_eq] at goes
  obtain ⟨_, _, -, ⟨_, -, -, absurd⟩ | ⟨id, -, goes⟩⟩ := ask_goes.mp goes
  · cases absurd
  obtain ⟨_, _, -, ⟨_, -, -, absurd⟩ | ⟨_, -, goes⟩⟩ := ask_goes.mp goes
  · cases absurd
  obtain ⟨_, _, -, ⟨_, -, -, absurd⟩ | ⟨u, -, goes⟩⟩ := ask_goes.mp goes
  · cases absurd
  · cases goes.2

/-- **Opening an account is all or nothing.** -/
theorem createAndInvite_allOrNothing (n : Store.Newcomer) (i : Invitation) :
    AllOrNothing limit (perform limit (.createAndInvite n i)) (Opened n i) := by
  apply transaction_allOrNothing (createAndInvite_careful n i)
  · intro said e goes
    exact absurd goes createAndInvite_not_undone
  · intro begun said u started goes
    exact opened_of_goes begun started goes

/-! ### Activating an account -/

/-- The account that an invitation names. -/
def namedId : List Row × Nat → Except Database.Error (Option Int64) := first? fun row => row.int8 "user_id"

/-- A reply without rows names no account. -/
theorem grasp_namedId_of_unmatched {r : Reply} (came : r.succeeds = true)
    (unmatched : r.Yieldless) : grasp limit namedId r = .ok none := by
  cases r with
  | rows rows =>
    cases rows with
    | nil => rfl
    | cons row rows => exact absurd rfl (unmatched row rows)
  | done n => rfl
  | failed e => cases came
  | late => cases came

theorem grasp_namedId_eq_none {r : Reply} (grasped : grasp limit namedId r = .ok none) :
    r.succeeds = true ∧ r.Yieldless := by
  obtain ⟨x, came, got⟩ := grasp_eq_ok grasped
  refine ⟨outcome_eq_ok came, ?_⟩
  rintro row rows rfl
  cases came
  unfold namedId first? at got
  simp only [List.head?_cons] at got
  cases read : row.int8 "user_id" with
  | ok id =>
    rw [read] at got
    cases got
  | error e =>
    rw [read] at got
    cases got

theorem activate_eq (digest : String) (now : Instant) :
    activate limit digest now =
      ask limit (.consumeInvitation digest now) namedId >>= fun
        | none => pure (.undo .notFound)
        | some id => ask limit (.activateUser id) .ok >>= fun _ => pure (.keep id) := by
  unfold activate
  apply row?_bind
  · rfl
  · intro row
    simp only [execute_bind]

/-- How the work of activating an account goes: what is said, and what comes of it. -/
inductive Activates (limit : Duration) (digest : String) (now : Instant) :
    Transcript → Except Break (Verdict Int64) → Prop
  | refused {r : Reply} {b : Break} : grasp limit namedId r = .error b →
      Activates limit digest now [(.consumeInvitation digest now, r)] (.error b)
  | unmatched {r : Reply} : grasp limit namedId r = .ok none →
      Activates limit digest now [(.consumeInvitation digest now, r)] (.ok (.undo .notFound))
  | broken {r r' : Reply} {id : Int64} {b : Break} : grasp limit namedId r = .ok (some id) →
      grasp limit .ok r' = .error b →
      Activates limit digest now [(.consumeInvitation digest now, r), (.activateUser id, r')] (.error b)
  | activated {r r' : Reply} {id : Int64} : grasp limit namedId r = .ok (some id) → r'.succeeds = true →
      Activates limit digest now [(.consumeInvitation digest now, r), (.activateUser id, r')]
        (.ok (.keep id))

theorem activate_goes {digest : String} {now : Instant} {x : Except Break (Verdict Int64)}
    (goes : (activate limit digest now).run.Goes said x) : Activates limit digest now said x := by
  rw [activate_eq] at goes
  obtain ⟨r, rest, rfl, ⟨b, failed, rfl, rfl⟩ | ⟨named, grasped, goes⟩⟩ := ask_goes.mp goes
  · exact .refused failed
  cases named with
  | none =>
    obtain ⟨rfl, rfl⟩ := goes
    exact .unmatched grasped
  | some id =>
    obtain ⟨r', rest, rfl, ⟨b, failed, rfl, rfl⟩ | ⟨_, put, rfl, rfl⟩⟩ := ask_goes.mp goes
    · exact .broken grasped failed
    · obtain ⟨_, came, -⟩ := grasp_eq_ok put
      exact .activated grasped (outcome_eq_ok came)

theorem activate_careful (digest : String) (now : Instant) : Careful limit (activate limit digest now) := by
  rw [activate_eq]
  apply Careful.ask rfl (plain_first? fun row => wantsColumn_get _ _ _)
  intro named
  cases named with
  | none => exact .pure _
  | some id =>
    apply Careful.ask rfl plain_ok
    intro _
    exact .pure _

/-- All of the work of activating an account: the invitation was taken away, and the account activated whose
id stood on it. -/
inductive Activated (digest : String) (now : Instant) : Transcript → Int64 → Prop
  | mk {begun activated : Reply} {row : Row} {rows : List Row} {id : Int64} :
    begun.succeeds = true → row.int8 "user_id" = .ok id → activated.succeeds = true →
    Activated digest now [(.begin, begun), (.consumeInvitation digest now, .rows (row :: rows)),
      (.activateUser id, activated)] id

/-- An account that is to be kept active was activated with all of its work. -/
theorem activated_of_goes {digest : String} {now : Instant} {id : Int64} (begun : Reply)
    (started : begun.succeeds = true) (goes : (activate limit digest now).run.Goes said (.ok (.keep id))) :
    Activated digest now ((.begin, begun) :: said) id := by
  cases activate_goes goes with
  | activated grasped done =>
    obtain ⟨row, rows, rfl, isId⟩ := grasp_first?_eq_some grasped
    exact .mk started isId done

/-- An activation that is undone has met no invitation. -/
theorem activate_undone {digest : String} {now : Instant} {e : Store.Error}
    (goes : (activate limit digest now).run.Goes said (.ok (.undo e))) : Breaks limit said e := by
  cases activate_goes goes with
  | @unmatched r grasped =>
    obtain ⟨came, unmatched⟩ := grasp_namedId_eq_none grasped
    refine ⟨[], _, r, rfl, ?_, .missing came unmatched⟩
    intro e mem
    cases mem

/-- **Activating an account is all or nothing.** -/
theorem activate_allOrNothing (digest : String) (now : Instant) :
    AllOrNothing limit (perform limit (.activate digest now)) (Activated digest now) := by
  apply transaction_allOrNothing (activate_careful digest now)
  · intro said e goes
    exact activate_undone goes
  · intro begun said id started goes
    exact activated_of_goes begun started goes

/-- The invitation is asked for first, so its reply decides how the work ends. -/
theorem Activates.of_unmatched {digest : String} {now : Instant} {x : Except Break (Verdict Int64)} {r : Reply}
    (goes : Activates limit digest now said x) (asked : (.consumeInvitation digest now, r) ∈ said)
    (grasped : grasp limit namedId r = .ok none) : x = .ok (.undo .notFound) := by
  cases goes with
  | refused failed =>
    cases List.mem_singleton.mp asked
    rw [grasped] at failed
    cases failed
  | unmatched => rfl
  | broken found =>
    rcases List.mem_cons.mp asked with same | mem
    · cases same
      rw [grasped] at found
      cases found
    · cases List.mem_singleton.mp mem
  | activated found =>
    rcases List.mem_cons.mp asked with same | mem
    · cases same
      rw [grasped] at found
      cases found
    · cases List.mem_singleton.mp mem

/-- What works in a transaction is said inside of it. -/
theorem mem_inside {inside rest : Transcript} {s : Statement} {r r₀ : Reply} (working : s.works = true)
    (mem : (s, r) ∈ (.begin, r₀) :: (inside ++ rest)) (idle : ∀ e ∈ rest, e.1.works = false) :
    (s, r) ∈ inside := by
  rcases List.mem_cons.mp mem with same | mem
  · cases same
    cases working
  rcases List.mem_append.mp mem with mem | mem
  · exact mem
  · rw [idle _ mem] at working
    cases working

/-- **An activation that nothing matches finds nothing**, whatever comes of undoing it. -/
theorem activate_unmatched {digest : String} {now : Instant} {x : Except Store.Error Int64} {r : Reply}
    (goes : (perform limit (.activate digest now)).Goes said x)
    (asked : (.consumeInvitation digest now, r) ∈ said) (came : r.succeeds = true)
    (unmatched : r.Yieldless) : x = .error .notFound := by
  have grasped : grasp limit namedId r = .ok none := grasp_namedId_of_unmatched came unmatched
  cases transaction_goes goes with
  | unbegun => cases List.mem_singleton.mp asked
  | broken begun went left =>
    cases (activate_goes went).of_unmatched (mem_inside rfl asked left.idle) grasped
  | undone begun went left =>
    cases (activate_goes went).of_unmatched (mem_inside rfl asked (idle_cons rfl left.idle)) grasped
    rfl
  | unkept begun went _ left =>
    cases (activate_goes went).of_unmatched (mem_inside rfl asked (idle_cons rfl left.idle)) grasped
  | kept begun went _ =>
    have left : Left [] := .inl rfl
    cases (activate_goes went).of_unmatched (mem_inside rfl asked (idle_cons rfl left.idle)) grasped

end Gatehouse.Database
