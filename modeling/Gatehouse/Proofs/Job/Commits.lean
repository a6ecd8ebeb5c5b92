import Gatehouse.Proofs.Job.Run
import Gatehouse.Proofs.Store.Accounts
import Gatehouse.Proofs.Store.Recall

/-!
Jobs that change what is stored at most once, and then have nothing left to do.

* `Commits`: whatever a job is told, as soon as it is told that it has changed what is stored, it has
  come to a result, and that is one of a kind.
* `Commits.bind`: such a job may go on with another one, if all that is left after a change is a result.
* `Commits.run`: run alone, it comes to such a result or leaves what is stored as it was. That is so when
  it is given up, too.
* `Commits.told`: the same for any one thing that it is told among other jobs. `Commits.written`: once it has been
  told of a change, it has its result.
-/

namespace Gatehouse

/-- A call that can change what is stored. -/
def Effect.Writes : Effect → Prop
  | .store c => ¬ c.Reads
  | .cache _ => False

open Store (Memory)

/-- What is stored changes only by a call that can change it, and that succeeds. -/
theorem Store.Memory.perform_eq_or {m : Memory} (now : Instant) (c : Store.Call) :
    (m.perform now c).2 = m ∨ (Effect.store c).Writes ∧ ∃ a, (m.perform now c).1 = .ok a := by
  by_cases reads : c.Reads
  · exact .inl (m.perform_of_reads now reads)
  cases answer : (m.perform now c).1 with
  | error e => exact .inl (m.perform_error now answer)
  | ok a => exact .inr ⟨reads, a, rfl⟩

theorem Store.Memory.Tells.eq_or {m m' : Memory} {x : Event} (tells : m.Tells x m') :
    m' = m ∨ ∃ e a, e.Writes ∧ x = .answered e (.ok a) := by
  cases tells with
  | performed now c =>
    rcases m.perform_eq_or now c with same | ⟨writes, a, answer⟩
    · exact .inl same
    · exact .inr ⟨.store c, a, writes, by rw [answer]⟩
  | _ => exact .inl rfl

theorem World.perform_store_or (w : World) (e : Effect) :
    (w.perform e).2.backend.store = w.backend.store ∨ e.Writes ∧ ∃ a, (w.perform e).1 = .ok a := by
  cases e with
  | store c => exact w.backend.store.perform_eq_or w.today c
  | cache c => exact .inl rfl

namespace Job

variable {α β : Type} {mid : α → Prop} {fine : α → Prop}

/-- Whatever a job is told: as soon as a call of it has changed what is stored, it has come to a result
of a kind. -/
def Commits (fine : α → Prop) : Job α → Prop
  | .done _ => True
  | .call e _ k => ∀ r, (k r).Commits fine ∧
      ∀ a, e.Writes → r = .ok a → ∃ x, k r = .done x ∧ fine x
  | .pause _ next => next.Commits fine
  | .wall k => ∀ t, (k t).Commits fine

/-- A job that changes nothing may come to anything. -/
theorem Only.commits {p : Effect → Prop} (reads : ∀ e, p e → ¬ e.Writes) {j : Job α} (only : j.Only p) :
    j.Commits fine := by
  induction j with
  | done a => trivial
  | wall k ih => exact fun t => ih t (only t)
  | pause d next ih => exact ih only
  | call e limit k ih =>
    intro r
    exact ⟨ih r (only.2 r), fun a writes _ => absurd writes (reads e only.1)⟩

/-- **A job that has changed something may go on**, if only its result is left to be made. -/
theorem Commits.bind {fine : β → Prop} {j : Job α} (first : j.Commits mid) {f : α → Job β}
    (next : ∀ a, (f a).Commits fine) (ends : ∀ a, mid a → ∃ b, f a = .done b ∧ fine b) :
    (j.bind f).Commits fine := by
  induction j with
  | done a => exact next a
  | wall k ih => exact fun t => ih t (first t)
  | pause d next' ih => exact ih first
  | call e limit k ih =>
    intro r
    refine ⟨ih r (first r).1, ?_⟩
    intro a writes answer
    obtain ⟨x, done, good⟩ := (first r).2 a writes answer
    obtain ⟨b, same, result⟩ := ends x good
    exact ⟨b, (congrArg (Job.bind · f) done).trans same, result⟩

/-! ### Alone -/

/-- A run has left what is stored as it was, or it has come to a result of a kind. -/
def Settles (fine : α → Prop) (w : World) (out : Option α × World) : Prop :=
  out.2.backend.store = w.backend.store ∨ ∃ x, out.1 = some x ∧ fine x

/-- **A job that runs alone** comes to a result of its kind, or leaves what is stored as it was, whether
it comes to another result or is given up. -/
theorem Commits.run {j : Job α} (commits : j.Commits fine) (deadline : Option Nat) (w : World) :
    Settles fine w (j.run deadline w) := by
  induction j generalizing w with
  | done a => exact .inl rfl
  | wall k ih => exact ih w.today (commits w.today) w
  | pause d next ih =>
    simp only [Job.run]
    split
    · cases deadline <;> exact .inl rfl
    · exact ih commits _
  | call e limit k ih =>
    have go : ∀ r (w' : World), w'.backend.store = w.backend.store →
        Settles fine w ((k r).run deadline w') := by
      intro r w' same
      rw [Settles, ← same]
      exact ih r (commits r).1 w'
    -- What the call changes, it changes last.
    have performs : ∀ w' : World, w'.backend.store = w.backend.store →
        Settles fine w ((k (w'.perform e).1).run deadline (w'.perform e).2) := by
      intro w' same
      rcases w'.perform_store_or e with kept | ⟨writes, a, answer⟩
      · exact go _ _ (kept.trans same)
      · obtain ⟨x, done, good⟩ := (commits _).2 a writes answer
        exact .inr ⟨x, by rw [done, Job.run], good⟩
    have waited : ∀ wake, Settles fine w (awaited deadline e limit k (w.dial e).2 wake) := by
      intro wake
      have givenUp : ((w.dial e).2.giveUp deadline).backend.store = w.backend.store := by
        cases deadline <;> rfl
      cases wake with
      | none => exact .inl givenUp
      | some wake =>
        simp only [awaited]
        split
        · exact .inl givenUp
        · cases wake with
          | arrival tick => exact performs _ rfl
          | limit tick => exact go _ _ rfl
    rw [run_call]
    cases (w.dial e).1 with
    | given r => exact go r _ rfl
    | prompt => exact performs _ rfl
    | late d => exact waited _
    | never => exact waited _

/-! ### Among others -/

theorem Commits.moves {j j' : Job α} (commits : j.Commits fine) {x : Event} (move : Moves j x j') :
    j'.Commits fine := by
  cases move with
  | answered e limit k r => exact (commits r).1
  | woke d next => exact commits
  | read k t => exact commits t

theorem After.commits {j j' : Job α} {h : History} (after : After j h j') (commits : j.Commits fine) :
    j'.Commits fine := by
  induction after with
  | start => exact commits
  | step _ move ih => exact ih.moves move

/-- **A job that is told something** by what it shares with others leaves what is stored as it is, or has
then come to a result of its kind. -/
theorem Commits.told {j j' : Job α} (commits : j.Commits fine) {x : Event} (move : Moves j x j')
    {m m' : Memory} (tells : m.Tells x m') : m' = m ∨ ∃ a, j' = .done a ∧ fine a := by
  rcases tells.eq_or with same | ⟨e, a, writes, told⟩
  · exact .inl same
  · cases move with
    | answered e' limit k r =>
      obtain ⟨rfl, answer⟩ := Event.answered.inj told
      exact .inr ((commits r).2 a writes (eq_of_heq answer))
    | woke d next => cases told
    | read k t => cases told

/-- **A job that has been told that it has changed something** has come to its result. -/
theorem Commits.written {j j' : Job α} {h : History} (commits : j.Commits fine) (after : After j h j')
    {c : Store.Call} {a : c.Answer} (writes : (Effect.store c).Writes)
    (told : .answered (.store c) (.ok a) ∈ h) : ∃ x, j' = .done x ∧ fine x := by
  induction after with
  | start => cases told
  | step before move ih =>
    rcases List.mem_append.mp told with told | told
    · obtain ⟨x, rfl, -⟩ := ih told
      cases move
    · have last := before.commits commits
      cases List.mem_singleton.mp told
      cases move with
      | answered e limit k r => exact (last _).2 a writes rfl

end Job

end Gatehouse
