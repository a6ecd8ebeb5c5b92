import Gatehouse.Database.Storage

/-!
What is said in a conversation with a database.

A transcript holds the statements that are sent, each with what is replied to it. How a conversation goes
depends on the replies alone, so whatever is shown of all transcripts holds with every server.

* `Talk.goes_bind`: a conversation that goes on with a result goes through both of its parts.
* `Talk.run_goes`: with a server, a conversation goes as the server replies.
* `Query.ask_goes`: a statement is asked, and what is made of its reply decides what comes next.
-/

namespace Gatehouse.Database

/-- Statements with what is replied to them, in order. -/
abbrev Transcript := List (Statement × Reply)

/-- Whether a statement was done in time. -/
def Reply.succeeds : Reply → Bool
  | .rows _ | .done _ => true
  | .failed _ | .late => false

/-! ### Transcripts -/

namespace Talk

variable {α β σ : Type}

/-- A conversation can go so that this is said and this comes of it. -/
def Goes : Talk α → Transcript → α → Prop
  | .done a, said, b => said = [] ∧ b = a
  | .send s k, said, b => ∃ r rest, said = (s, r) :: rest ∧ (k r).Goes rest b

/-- **A conversation that goes on goes through both of its parts.** -/
theorem goes_bind {t : Talk α} {f : α → Talk β} {said : Transcript} {b : β} :
    (t.bind f).Goes said b ↔
      ∃ before a after, said = before ++ after ∧ t.Goes before a ∧ (f a).Goes after b := by
  induction t generalizing said with
  | done a =>
    constructor
    · intro goes
      exact ⟨[], a, said, rfl, ⟨rfl, rfl⟩, goes⟩
    · rintro ⟨before, a', after, rfl, ⟨rfl, rfl⟩, goes⟩
      exact goes
  | send s k ih =>
    constructor
    · rintro ⟨r, rest, rfl, goes⟩
      obtain ⟨before, a, after, rfl, first, second⟩ := (ih r).mp goes
      exact ⟨(s, r) :: before, a, after, rfl, ⟨r, before, rfl, first⟩, second⟩
    · rintro ⟨before, a, after, rfl, ⟨r, rest, rfl, first⟩, second⟩
      exact ⟨r, rest ++ after, rfl, (ih r).mpr ⟨rest, a, after, rfl, first, second⟩⟩

/-- A server replies so, statement by statement. -/
def Told (server : σ → Statement → Reply × σ) : σ → Transcript → σ → Prop
  | x, [], y => y = x
  | x, (s, r) :: rest, y => r = (server x s).1 ∧ Told server (server x s).2 rest y

theorem told_append {server : σ → Statement → Reply × σ} {x z : σ} {before after : Transcript} :
    Told server x (before ++ after) z ↔ ∃ y, Told server x before y ∧ Told server y after z := by
  induction before generalizing x with
  | nil => exact ⟨fun told => ⟨x, rfl, told⟩, fun ⟨y, same, told⟩ => same ▸ told⟩
  | cons e before ih => simp only [List.cons_append, Told, ih, exists_and_left, and_assoc]

/-- **With a server, a conversation goes as the server replies.** -/
theorem run_goes (server : σ → Statement → Reply × σ) (t : Talk α) (x : σ) :
    ∃ said, t.Goes said (t.run server x).1 ∧ said.map Prod.fst = (t.run server x).2.1 ∧
      Told server x said (t.run server x).2.2 := by
  induction t generalizing x with
  | done a => exact ⟨[], ⟨rfl, rfl⟩, rfl, rfl⟩
  | send s k ih =>
    obtain ⟨said, goes, sent, told⟩ := ih (server x s).1 (server x s).2
    refine ⟨(s, (server x s).1) :: said, ⟨_, said, rfl, goes⟩, ?_, rfl, told⟩
    rw [List.map_cons, sent]
    rfl

end Talk

/-! ### Questions -/

namespace Query

variable {α β : Type}

/-- **A query that goes on ends where it breaks off.** -/
theorem run_bind (q : Query α) (f : α → Query β) :
    (q >>= f).run = q.run.bind fun
      | .ok a => (f a).run
      | .error b => .done (.error b) := by
  show q.run.bind _ = _
  congr 1
  funext x
  cases x <;> rfl

/-- What is made of a reply: its failure, or what `read` makes of its rows and their number. -/
def grasp (limit : Duration) (read : List Row × Nat → Except Database.Error α) (r : Reply) :
    Except Break α :=
  (outcome limit r).bind fun x => (read x).mapError fun e => ⟨storeError e, e.isFatal⟩

/-- A statement that is sent for what is made of its reply. -/
def ask (limit : Duration) (s : Statement) (read : List Row × Nat → Except Database.Error α) : Query α :=
  .mk (.send s fun r => .done (grasp limit read r))

/-- The first row, read. -/
def first (read : Row → Except Database.Error α) (x : List Row × Nat) : Except Database.Error α :=
  match x.1.head? with
  | some row => read row
  | none => .error .rowNotFound

/-- The first row, read, if there is one. -/
def first? (read : Row → Except Database.Error α) (x : List Row × Nat) : Except Database.Error (Option α) :=
  match x.1.head? with
  | some row => (read row).map some
  | none => .ok none

/-- **What comes after a question** depends on what is made of the reply. -/
theorem ask_goes {limit : Duration} {s : Statement} {read : List Row × Nat → Except Database.Error α}
    {f : α → Query β} {said : Transcript} {x : Except Break β} :
    (ask limit s read >>= f).run.Goes said x ↔ ∃ r rest, said = (s, r) :: rest ∧
      ((∃ b, grasp limit read r = .error b ∧ rest = [] ∧ x = .error b) ∨
        ∃ a, grasp limit read r = .ok a ∧ (f a).run.Goes rest x) := by
  have open' : ∀ r rest, (Talk.Goes (match grasp limit read r with
      | .ok a => (f a).run
      | .error b => .done (.error b)) rest x) ↔
        ((∃ b, grasp limit read r = .error b ∧ rest = [] ∧ x = .error b) ∨
          ∃ a, grasp limit read r = .ok a ∧ (f a).run.Goes rest x) := by
    intro r rest
    cases grasp limit read r with
    | ok a => simp
    | error b => simp [Talk.Goes]
  rw [run_bind]
  constructor
  · rintro ⟨r, rest, rfl, goes⟩
    exact ⟨r, rest, rfl, (open' r rest).mp goes⟩
  · rintro ⟨r, rest, rfl, goes⟩
    exact ⟨r, rest, rfl, (open' r rest).mpr goes⟩

/-! The ways in which storage asks are questions. -/

theorem row_bind (limit : Duration) (s : Statement) (read : Row → Except Database.Error α)
    (f : α → Query β) :
    (row limit s >>= fun r => check (read r) >>= f) = ask limit s (first read) >>= f := by
  show Talk.send s _ = Talk.send s _
  congr 1
  funext r
  cases r with
  | rows rows =>
    cases rows with
    | nil => rfl
    | cons row rest =>
      show (check (read row) >>= f).run =
        ExceptT.bindCont f ((read row).mapError fun e => ⟨storeError e, e.isFatal⟩)
      cases read row <;> rfl
  | done n => rfl
  | failed e => rfl
  | late => rfl

theorem row?_bind (limit : Duration) (s : Statement) (read : Row → Except Database.Error α)
    (f : Option α → Query β) (g : Option Row → Query β) (without : g none = f none)
    (within : ∀ row, g (some row) = check (read row) >>= fun a => f (some a)) :
    row? limit s >>= g = ask limit s (first? read) >>= f := by
  show Talk.send s _ = Talk.send s _
  congr 1
  funext r
  cases r with
  | rows rows =>
    cases rows with
    | nil => exact without
    | cons row rest =>
      refine (within row).trans ?_
      show (check (read row) >>= fun a => f (some a)).run =
        ExceptT.bindCont f (((read row).map some).mapError fun e => ⟨storeError e, e.isFatal⟩)
      cases read row <;> rfl
  | done n => exact without
  | failed e => rfl
  | late => rfl

theorem execute_bind (limit : Duration) (s : Statement) (f : Nat → Query β) :
    execute limit s >>= f = ask limit s .ok >>= fun x => f x.2 := by
  show Talk.send s _ = Talk.send s _
  congr 1
  funext r
  cases r <;> rfl

end Query

/-! ### Replies that fail -/

/-- A statement yields nothing. -/
def Reply.Yieldless (r : Reply) : Prop := ∀ row rows, r ≠ .rows (row :: rows)

/-- A reply lets a call fail so: with the server's failure, with the time that was waited, for want of a column
in its first row, or for want of a row. -/
inductive Reply.Fault (limit : Duration) : Reply → Store.Error → Prop
  | failed (e : Database.Error) : Fault limit (.failed e) (storeError e)
  | late : Fault limit .late (.timeout limit)
  | unreadable (row : Row) (rows : List Row) (name : String) :
    Fault limit (.rows (row :: rows)) (.database (.column name))
  | missing {r : Reply} : r.succeeds = true → r.Yieldless → Fault limit r .notFound

namespace Query

variable {α : Type} {limit : Duration} {r : Reply}

theorem outcome_eq_ok {x : List Row × Nat} (came : outcome limit r = .ok x) : r.succeeds = true := by
  cases r with
  | rows rows => rfl
  | done n => rfl
  | failed e => cases came
  | late => cases came

theorem outcome_eq_error {b : Break} (came : outcome limit r = .error b) :
    r.succeeds = false ∧ r.Fault limit b.error := by
  cases r with
  | rows rows => cases came
  | done n => cases came
  | failed e =>
    cases came
    exact ⟨rfl, .failed e⟩
  | late =>
    cases came
    exact ⟨rfl, .late⟩

/-- What is made of a reply is read from what came in time. -/
theorem grasp_eq_ok {read : List Row × Nat → Except Database.Error α} {a : α}
    (grasped : grasp limit read r = .ok a) : ∃ x, outcome limit r = .ok x ∧ read x = .ok a := by
  unfold grasp at grasped
  cases came : outcome limit r with
  | error b =>
    rw [came] at grasped
    cases grasped
  | ok x =>
    rw [came] at grasped
    refine ⟨x, rfl, ?_⟩
    cases got : read x with
    | ok a' =>
      rw [Except.bind, got] at grasped
      cases grasped
      rfl
    | error e =>
      rw [Except.bind, got] at grasped
      cases grasped

/-- What came in time has a first row if it has rows. -/
theorem outcome_head? {x : List Row × Nat} {row : Row} (came : outcome limit r = .ok x)
    (head : x.1.head? = some row) : ∃ rows, r = .rows (row :: rows) := by
  cases r with
  | rows rows =>
    cases came
    obtain ⟨rows', rfl⟩ := List.head?_eq_some_iff.mp head
    exact ⟨rows', rfl⟩
  | done n =>
    cases came
    cases head
  | failed e => cases came
  | late => cases came

theorem yieldless_of_head? {x : List Row × Nat} (came : outcome limit r = .ok x)
    (head : x.1.head? = none) : r.Yieldless := by
  rintro row rows rfl
  cases came
  cases head

/-- Readers that fail for want of a row or of a column in the first row only. -/
def Plain (read : List Row × Nat → Except Database.Error α) : Prop :=
  ∀ x e, read x = .error e →
    (e = .rowNotFound ∧ x.1.head? = none) ∨ ∃ name row, e = .column name ∧ x.1.head? = some row

/-- A reply that nothing is made of is at fault. -/
theorem grasp_eq_error {read : List Row × Nat → Except Database.Error α} (plain : Plain read) {b : Break}
    (grasped : grasp limit read r = .error b) : r.Fault limit b.error := by
  unfold grasp at grasped
  cases came : outcome limit r with
  | error b' =>
    rw [came] at grasped
    cases grasped
    exact (outcome_eq_error came).2
  | ok x =>
    rw [came] at grasped
    cases got : read x with
    | ok a =>
      rw [Except.bind, got] at grasped
      cases grasped
    | error e =>
      rw [Except.bind, got] at grasped
      cases grasped
      rcases plain x e got with ⟨rfl, head⟩ | ⟨name, row, rfl, head⟩
      · exact .missing (outcome_eq_ok came) (yieldless_of_head? came head)
      · obtain ⟨rows, rfl⟩ := outcome_head? came head
        exact .unreadable row rows name

/-- What is made of the first row comes from a reply that has one. -/
theorem grasp_first_eq_ok {read : Row → Except Database.Error α} {a : α}
    (grasped : grasp limit (first read) r = .ok a) :
    ∃ row rows, r = .rows (row :: rows) ∧ read row = .ok a := by
  obtain ⟨x, came, got⟩ := grasp_eq_ok grasped
  unfold first at got
  split at got
  · next row head =>
    obtain ⟨rows, rfl⟩ := outcome_head? came head
    exact ⟨row, rows, rfl, got⟩
  · cases got

theorem grasp_first?_eq_some {read : Row → Except Database.Error α} {a : α}
    (grasped : grasp limit (first? read) r = .ok (some a)) :
    ∃ row rows, r = .rows (row :: rows) ∧ read row = .ok a := by
  obtain ⟨x, came, got⟩ := grasp_eq_ok grasped
  unfold first? at got
  split at got
  · next row head =>
    obtain ⟨rows, rfl⟩ := outcome_head? came head
    cases read' : read row with
    | ok a' =>
      rw [read'] at got
      cases got
      exact ⟨row, rows, rfl, read'⟩
    | error e =>
      rw [read'] at got
      cases got
  · cases got

end Query
end Gatehouse.Database
