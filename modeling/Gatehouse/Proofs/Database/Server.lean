import Gatehouse.Proofs.Database.Transactions

/-!
Servers with transactions.

A server is known by what it keeps for good and by what the open transaction of a connection has made of that.
Nothing is assumed about its replies.

* `Transactional`: uncommitted work is discarded.
* `transaction_kept`: of a transaction, all is kept or nothing.
-/

namespace Gatehouse.Database

open Query

/-- What is known of a server that keeps data `τ` in states `σ`. -/
structure View (σ τ : Type) where
  /-- What is kept for good. -/
  kept : σ → τ
  /-- What the open transaction sees, if there is one. -/
  draft : σ → Option τ

/-- **A server that discards uncommitted work.** `Does` tells what a statement that was done in time with some
reply makes of the data. -/
structure Transactional {σ τ : Type} (server : σ → Statement → Reply × σ) (v : View σ τ)
    (Does : Statement → Reply → τ → τ → Prop) : Prop where
  /-- Beginning changes nothing that is kept. -/
  begin_kept : ∀ x, v.kept (server x .begin).2 = v.kept x
  /-- A transaction starts from what is kept. -/
  begin_draft : ∀ x, (server x .begin).1.succeeds = true → v.draft (server x .begin).2 = some (v.kept x)
  /-- The work of a transaction changes nothing that is kept. -/
  work_kept : ∀ x s t, s.works = true → v.draft x = some t → v.kept (server x s).2 = v.kept x
  /-- It changes what the transaction sees. -/
  work_draft : ∀ x s t, s.works = true → v.draft x = some t → (server x s).1.succeeds = true →
    ∃ t', Does s (server x s).1 t t' ∧ v.draft (server x s).2 = some t'
  /-- COMMIT keeps what the transaction sees. If it is not known to be done, it may be done or not. -/
  commit_kept : ∀ x t, v.draft x = some t → v.kept (server x .commit).2 = t ∨
    (server x .commit).1.succeeds = false ∧ v.kept (server x .commit).2 = v.kept x
  /-- ROLLBACK changes nothing that is kept. -/
  rollback_kept : ∀ x, v.kept (server x .rollback).2 = v.kept x
  /-- A statement outside of transactions is done at once or not at all. -/
  alone_kept : ∀ x s, s.works = true → v.draft x = none → v.kept (server x s).2 = v.kept x ∨
    ∃ r, Does s r (v.kept x) (v.kept (server x s).2)

/-- What all the work of a transcript makes of the data. -/
def Works {τ : Type} (Does : Statement → Reply → τ → τ → Prop) : Transcript → τ → τ → Prop
  | [], t, t' => t' = t
  | (s, r) :: rest, t, t'' => ∃ t', Does s r t t' ∧ Works Does rest t' t''

namespace Transactional

variable {α σ τ : Type} {server : σ → Statement → Reply × σ} {v : View σ τ}
  {Does : Statement → Reply → τ → τ → Prop} {limit : Duration} {said : Transcript} {x y : σ} {t : τ}

/-! ### Inside of a transaction -/

/-- Work that was done is seen by the transaction, and not kept. -/
theorem inside (server_ok : Transactional server v Does) (works : ∀ e ∈ said, e.1.works = true)
    (done : Done said) (seen : v.draft x = some t) (told : Talk.Told server x said y) :
    v.kept y = v.kept x ∧ ∃ t', Works Does said t t' ∧ v.draft y = some t' := by
  induction said generalizing x t with
  | nil =>
    obtain rfl : y = x := told
    exact ⟨rfl, t, rfl, seen⟩
  | cons e rest ih =>
    obtain ⟨s, r⟩ := e
    obtain ⟨rfl, told⟩ := told
    have working : s.works = true := works _ (.head _)
    have came : (server x s).1.succeeds = true := done _ (.head _)
    obtain ⟨t₁, does, seen₁⟩ := server_ok.work_draft x s t working seen came
    obtain ⟨same, t', worked, seen'⟩ := ih (fun e mem => works e (.tail _ mem))
      (fun e mem => done e (.tail _ mem)) seen₁ told
    exact ⟨same.trans (server_ok.work_kept x s t working seen), t', ⟨t₁, does, worked⟩, seen'⟩

/-- Work that breaks off is not kept. -/
theorem breaks (server_ok : Transactional server v Does) (works : ∀ e ∈ said, e.1.works = true)
    {e : Store.Error} (broke : Breaks limit said e) (seen : v.draft x = some t)
    (told : Talk.Told server x said y) : v.kept y = v.kept x := by
  obtain ⟨before, s, r, rfl, done, -⟩ := broke
  obtain ⟨z, before_told, rfl, rfl⟩ := Talk.told_append.mp told
  obtain ⟨same, t', -, seen'⟩ := server_ok.inside (fun e mem => works e (List.mem_append_left _ mem)) done
    seen before_told
  have working : s.works = true := works (s, _) (List.mem_append_right _ (.head _))
  exact (server_ok.work_kept z s t' working seen').trans same

/-- Undoing keeps nothing. -/
theorem undoes (server_ok : Transactional server v Does) (left : ∀ e ∈ said, e.1 = Statement.rollback)
    (told : Talk.Told server x said y) : v.kept y = v.kept x := by
  induction said generalizing x with
  | nil =>
    obtain rfl : y = x := told
    rfl
  | cons e rest ih =>
    obtain ⟨s, r⟩ := e
    obtain ⟨rfl, told⟩ := told
    obtain rfl : s = .rollback := left _ (.head _)
    exact (ih (fun e mem => left e (.tail _ mem)) told).trans (server_ok.rollback_kept x)

/-- COMMIT, and how the transaction is left. -/
theorem commits (server_ok : Transactional server v Does) {r : Reply} {rest : Transcript}
    (seen : v.draft x = some t) (left : Left rest) (told : Talk.Told server x ((.commit, r) :: rest) y) :
    v.kept y = t ∨ r.succeeds = false ∧ v.kept y = v.kept x := by
  obtain ⟨rfl, told⟩ := told
  have same := server_ok.undoes left.rollback told
  rcases server_ok.commit_kept x t seen with all | ⟨unknown, nothing⟩
  · exact .inl (same.trans all)
  · exact .inr ⟨unknown, same.trans nothing⟩

/-! ### Whole transactions -/

/-- What comes of a transaction with a server: nothing is kept, or all of its work. -/
inductive Keeps (limit : Duration) (v : View σ τ) (Does : Statement → Reply → τ → τ → Prop)
    (body : Query (Verdict α)) (said : Transcript) (x y : σ) : Except Store.Error α → Prop
  | nothing {e : Store.Error} : v.kept y = v.kept x → Keeps limit v Does body said x y (.error e)
  | unknown {inside : Transcript} {a : α} {e : Store.Error} {r : Reply} :
    body.run.Goes inside (.ok (.keep a)) → Works Does inside (v.kept x) (v.kept y) →
    (.commit, r) ∈ said → Keeps limit v Does body said x y (.error e)
  | all {inside : Transcript} {a : α} : body.run.Goes inside (.ok (.keep a)) →
    Works Does inside (v.kept x) (v.kept y) → Keeps limit v Does body said x y (.ok a)

/-- **Of a transaction, all is kept or nothing.** -/
theorem transaction_kept (server_ok : Transactional server v Does) {body : Query (Verdict α)}
    (careful : Careful limit body)
    (undo : ∀ said e, body.run.Goes said (.ok (.undo e)) → Breaks limit said e)
    {out : Except Store.Error α} (goes : (transaction limit body).Goes said out)
    (told : Talk.Told server x said y) : Keeps limit v Does body said x y out := by
  cases transaction_goes goes with
  | unbegun failed =>
    obtain ⟨rfl, rfl⟩ := told
    exact .nothing (server_ok.begin_kept x)
  | broken begun went left =>
    obtain ⟨rfl, told⟩ := told
    obtain ⟨z, inside_told, left_told⟩ := Talk.told_append.mp told
    have undone := server_ok.undoes left.rollback left_told
    have lost := server_ok.breaks (careful.works _ _ went) (careful.error _ _ went)
      (server_ok.begin_draft x begun) inside_told
    exact .nothing (undone.trans (lost.trans (server_ok.begin_kept x)))
  | undone begun went left =>
    obtain ⟨rfl, told⟩ := told
    obtain ⟨z, inside_told, left_told⟩ := Talk.told_append.mp told
    have undone := server_ok.undoes left.rollback_cons left_told
    have lost := server_ok.breaks (careful.works _ _ went) (undo _ _ went)
      (server_ok.begin_draft x begun) inside_told
    exact .nothing (undone.trans (lost.trans (server_ok.begin_kept x)))
  | unkept begun went failed left =>
    obtain ⟨rfl, told⟩ := told
    obtain ⟨z, inside_told, end_told⟩ := Talk.told_append.mp told
    obtain ⟨same, t, worked, seen⟩ := server_ok.inside (careful.works _ _ went) (careful.ok _ _ went)
      (server_ok.begin_draft x begun) inside_told
    rcases server_ok.commits seen left end_told with rfl | ⟨-, nothing⟩
    · exact .unknown went worked (List.mem_cons_of_mem _ (List.mem_append_right _ (.head _)))
    · exact .nothing (nothing.trans (same.trans (server_ok.begin_kept x)))
  | kept begun went done =>
    obtain ⟨rfl, told⟩ := told
    obtain ⟨z, inside_told, end_told⟩ := Talk.told_append.mp told
    obtain ⟨same, t, worked, seen⟩ := server_ok.inside (careful.works _ _ went) (careful.ok _ _ went)
      (server_ok.begin_draft x begun) inside_told
    rcases server_ok.commits seen (.inl rfl) end_told with rfl | ⟨unknown, -⟩
    · exact .all went worked
    · rw [unknown] at done
      cases done

end Transactional
end Gatehouse.Database
