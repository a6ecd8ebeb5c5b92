import Gatehouse.Database.Reply
import Gatehouse.Database.Statement

/-!
Conversations with a database: statements, and what to do with each reply.

A transaction is a conversation between BEGIN and its end. It ends with COMMIT only if everything in
it succeeded; otherwise it is rolled back, unless the connection is gone.
-/

namespace Gatehouse.Database

/-- A conversation up to a result. -/
inductive Talk (α : Type) : Type where
  | done (a : α)
  | send (s : Statement) (k : Reply → Talk α)

namespace Talk

variable {α β : Type}

/-- A conversation and another one that goes on with its result. -/
def bind : Talk α → (α → Talk β) → Talk β
  | .done a, f => f a
  | .send s k, f => .send s fun r => (k r).bind f

instance : Monad Talk where
  pure := .done
  bind := .bind

@[simp] theorem pure_bind (a : α) (f : α → Talk β) : Talk.bind (.done a) f = f a := rfl

@[simp] theorem bind_done (t : Talk α) : t.bind .done = t := by
  induction t with
  | done a => rfl
  | send s k ih => simp only [bind]; congr; funext r; exact ih r

/-- A conversation with a server: its result, the statements that were sent, and the server after
it. -/
def run {σ : Type} (server : σ → Statement → Reply × σ) : Talk α → σ → α × List Statement × σ
  | .done a, x => (a, [], x)
  | .send s k, x =>
    let (r, x) := server x s
    let (a, sent, x) := (k r).run server x
    (a, s :: sent, x)

end Talk

/-- Why a conversation breaks off, and whether the connection is gone. -/
structure Break where
  error : Store.Error
  lost : Bool
deriving DecidableEq

/-- A conversation that may break off. -/
abbrev Query := ExceptT Break Talk

namespace Query

variable {α : Type}

/-- The rows of a reply that has to come within a limit, and the number of rows that the statement
affected. -/
def outcome (limit : Duration) : Reply → Except Break (List Row × Nat)
  | .rows rows => .ok (rows, rows.length)
  | .done n => .ok ([], n)
  | .failed e => .error ⟨storeError e, e.isFatal⟩
  | .late => .error ⟨.timeout limit, false⟩

/-- Sends a statement. -/
def send (limit : Duration) (s : Statement) : Query (List Row × Nat) :=
  .mk (.send s fun r => .done (outcome limit r))

/-- Breaks off with a failure of the database. -/
def check (r : Except Database.Error α) : Query α :=
  .mk (.done (r.mapError fun e => ⟨storeError e, e.isFatal⟩))

/-- The first row that a statement yields; further ones are passed over. -/
def row? (limit : Duration) (s : Statement) : Query (Option Row) := do
  return (← send limit s).1.head?

/-- The first row that a statement yields; without one it fails. -/
def row (limit : Duration) (s : Statement) : Query Row := do
  match ← row? limit s with
  | some r => return r
  | none => check (.error .rowNotFound)

/-- The number of rows that a statement affects. -/
def execute (limit : Duration) (s : Statement) : Query Nat := do
  return (← send limit s).2

/-- The result of a conversation outside of a transaction. -/
def result (q : Query α) : Talk (Except Store.Error α) :=
  q.run.bind fun r => .done (r.mapError (·.error))

end Query

/-! ### Transactions -/

/-- How a transaction is to end when nothing in it failed: by keeping what was done, or by undoing it
and failing. -/
inductive Verdict (α : Type) where
  | keep (a : α)
  | undo (e : Store.Error)

/-- Undoes a transaction that did not come to its end, and fails. A connection that is gone has undone
it already. -/
def forsake {α : Type} (e : Store.Error) (lost : Bool) : Talk (Except Store.Error α) :=
  if lost then .done (.error e) else .send .rollback fun _ => .done (.error e)

/-- A transaction. -/
def transaction {α : Type} (limit : Duration) (body : Query (Verdict α)) :
    Talk (Except Store.Error α) :=
  .send .begin fun begun =>
    match Query.outcome limit begun with
    | .error b => .done (.error b.error)
    | .ok _ =>
      body.run.bind fun
        | .error b => forsake b.error b.lost
        | .ok (.keep a) => .send .commit fun r =>
          match Query.outcome limit r with
          | .ok _ => .done (.ok a)
          | .error b => forsake b.error b.lost
        | .ok (.undo e) => .send .rollback fun r =>
          match Query.outcome limit r with
          | .ok _ => .done (.error e)
          | .error b => forsake e b.lost

end Gatehouse.Database
