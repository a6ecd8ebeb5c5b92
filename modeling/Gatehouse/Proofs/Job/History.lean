import Mathlib.Data.List.Induction
import Gatehouse.Proofs.Job.Run

/-!
What a job has been told, and what it does then.

* `After`: the job that is left of another one, after a history of answers. `After.bind_done` is how one
  that goes on with a result has come to it.
* `After.of_run`: what a run comes to, it has come to after a history.
* `Abides`: whatever a job is told from a point of its history on, each of its calls is one that the
  history before it permits, and so is its result.
* `Abides.bind`: such a job may go on with one that abides from every history in which it can end.
* `After.abides`: what abides at the start abides after every history.
-/

namespace Gatehouse

/-- What a job is told: the answer to a call, that a pause is over, what the wall clock shows. -/
inductive Event where
  | answered (e : Effect) (r : e.Result)
  | woke
  | read (t : Instant)

/-- What a job has been told, first thing first. -/
abbrev History := List Event

namespace Job

variable {α β : Type}

/-! ### Steps -/

/-- A job that is told one thing. -/
inductive Moves : Job α → Event → Job α → Prop where
  | answered (e : Effect) (limit : Option Duration) (k : e.Result → Job α) (r : e.Result) :
    Moves (.call e limit k) (.answered e r) (k r)
  | woke (d : Duration) (next : Job α) : Moves (.pause d next) .woke next
  | read (k : Instant → Job α) (t : Instant) : Moves (.wall k) (.read t) (k t)

/-- What is left of a job after a history. -/
inductive After (j : Job α) : History → Job α → Prop where
  | start : After j [] j
  | step {h : History} {j' j'' : Job α} {x : Event} :
    After j h j' → Moves j' x j'' → After j (h ++ [x]) j''

theorem Moves.unique {j j₁ j₂ : Job α} {x : Event} (one : Moves j x j₁) (two : Moves j x j₂) :
    j₁ = j₂ := by
  cases one <;> cases two <;> rfl

theorem After.unique {j j₁ j₂ : Job α} {h : History} (one : After j h j₁) (two : After j h j₂) :
    j₁ = j₂ := by
  induction one generalizing j₂ with
  | start =>
    generalize none : ([] : History) = h at two
    cases two with
    | start => rfl
    | step _ _ => simp at none
  | @step h j' j'' x _ move ih =>
    generalize some : h ++ [x] = h' at two
    cases two with
    | start => simp at some
    | step before move' =>
      obtain ⟨rfl, same⟩ := List.append_inj' some rfl
      obtain rfl := List.singleton_inj.mp same
      exact move.unique (ih before ▸ move')

/-- A history that begins with another one leads on from where that one leads. -/
theorem After.split {j j'' : Job α} {h h' : History} (after : After j (h ++ h') j'') :
    ∃ j', After j h j' ∧ After j' h' j'' := by
  induction h' using List.reverseRecOn generalizing j'' with
  | nil => exact ⟨j'', by simpa using after, .start⟩
  | append_singleton h' x ih =>
    rw [← List.append_assoc] at after
    generalize some : h ++ h' ++ [x] = h₀ at after
    cases after with
    | start => simp at some
    | step before move =>
      obtain ⟨rfl, same⟩ := List.append_inj' some rfl
      obtain rfl := List.singleton_inj.mp same
      obtain ⟨j', one, two⟩ := ih before
      exact ⟨j', one, two.step move⟩

theorem After.trans {j j' j'' : Job α} {h h' : History} (one : After j h j') (two : After j' h' j'') :
    After j (h ++ h') j'' := by
  induction two with
  | start => simpa using one
  | step _ move ih =>
    rw [← List.append_assoc]
    exact ih.step move

theorem After.of_moves {j j' j'' : Job α} {x : Event} {h : History} (move : Moves j x j')
    (after : After j' h j'') : After j (x :: h) j'' :=
  (After.start.step move).trans after

/-- A history that leads to a result is empty, or begins with a step. -/
theorem After.head {j : Job α} {a : α} {h : History} (after : After j h (.done a)) :
    j = .done a ∧ h = [] ∨ ∃ x j' h', h = x :: h' ∧ Moves j x j' ∧ After j' h' (.done a) := by
  cases h with
  | nil => exact .inl ⟨After.unique .start after, rfl⟩
  | cons x h =>
    obtain ⟨j', one, rest⟩ := After.split (h := [x]) after
    generalize single : [x] = first at one
    cases one with
    | start => cases single
    | step before move =>
      rw [← List.nil_append [x]] at single
      obtain ⟨rfl, same⟩ := List.append_inj' single rfl
      obtain rfl := List.singleton_inj.mp same
      obtain rfl := After.unique .start before
      exact .inr ⟨x, j', h, rfl, move, rest⟩

/-- **A job that goes on has come to a result before.** -/
theorem After.bind_done {j : Job α} {f : α → Job β} {b : β} {h : History}
    (after : After (j.bind f) h (.done b)) :
    ∃ h₁ h₂ a, h = h₁ ++ h₂ ∧ After j h₁ (.done a) ∧ After (f a) h₂ (.done b) := by
  induction j generalizing h with
  | done a => exact ⟨[], h, a, rfl, .start, after⟩
  | wall k ih =>
    rcases after.head with ⟨ended, -⟩ | ⟨x, j', h', rfl, move, rest⟩
    · cases ended
    cases move with
    | read _ t =>
      obtain ⟨h₁, h₂, a, rfl, one, two⟩ := ih t rest
      exact ⟨_ :: h₁, h₂, a, rfl, .of_moves (.read k t) one, two⟩
  | pause d next ih =>
    rcases after.head with ⟨ended, -⟩ | ⟨x, j', h', rfl, move, rest⟩
    · cases ended
    cases move with
    | woke =>
      obtain ⟨h₁, h₂, a, rfl, one, two⟩ := ih rest
      exact ⟨_ :: h₁, h₂, a, rfl, .of_moves (.woke d next) one, two⟩
  | call e limit k ih =>
    rcases after.head with ⟨ended, -⟩ | ⟨x, j', h', rfl, move, rest⟩
    · cases ended
    cases move with
    | answered _ _ _ r =>
      obtain ⟨h₁, h₂, a, rfl, one, two⟩ := ih r rest
      exact ⟨_ :: h₁, h₂, a, rfl, .of_moves (.answered e limit k r) one, two⟩

/-- A job that has come to its result is told nothing more. -/
theorem After.of_done {a : α} {j : Job α} {h : History} (after : After (.done a) h j) :
    j = .done a := by
  induction after with
  | start => rfl
  | step _ move ih =>
    subst ih
    cases move

/-- A history leads to one result at most. -/
theorem After.result_unique {j : Job α} {a b : α} {h h₁ h₂ : History} (one : After j h₁ (.done a))
    (pre₁ : h₁ <+: h) (two : After j h₂ (.done b)) (pre₂ : h₂ <+: h) : a = b := by
  have go : ∀ {a b : α} {h₁ h₂ : History}, After j h₁ (.done a) → After j h₂ (.done b) →
      h₁ <+: h₂ → a = b := by
    rintro a b h₁ _ one two ⟨rest, rfl⟩
    obtain ⟨j', one', two'⟩ := two.split
    obtain rfl := one.unique one'
    exact (Job.done.inj two'.of_done).symm
  rcases List.prefix_or_prefix_of_prefix pre₁ pre₂ with pre | pre
  · exact go one two pre
  · exact (go two one pre).symm

/-- **What a run comes to, it has been told something to come to it.** -/
theorem After.of_run {deadline : Option Nat} {j : Job α} {w : World} {a : α}
    (ran : (j.run deadline w).1 = some a) : ∃ h, After j h (.done a) := by
  induction j generalizing w with
  | done b =>
    obtain rfl := Option.some.inj ran
    exact ⟨[], .start⟩
  | wall k ih => exact (ih w.today ran).elim fun h after => ⟨_, .of_moves (.read k w.today) after⟩
  | pause d next ih =>
    simp only [run] at ran
    split at ran
    · cases ran
    · exact (ih ran).elim fun h after => ⟨_, .of_moves (.woke d next) after⟩
  | call e limit k ih =>
    have answered {r : e.Result} {w : World} (ran : ((k r).run deadline w).1 = some a) :
        ∃ h, After (.call e limit k) h (.done a) :=
      (ih r ran).elim fun h after => ⟨_, .of_moves (.answered e limit k r) after⟩
    have waited {wake : Option Wake} (ran : (awaited deadline e limit k (w.dial e).2 wake).1 = some a) :
        ∃ h, After (.call e limit k) h (.done a) := by
      cases wake with
      | none => cases ran
      | some wake =>
        simp only [awaited] at ran
        split at ran
        · cases ran
        · cases wake with
          | arrival tick => exact answered ran
          | limit tick => exact answered ran
    rw [run_call] at ran
    cases reply : (w.dial e).1 with
    | given r => exact answered (by simpa [reply] using ran)
    | prompt => exact answered (by simpa [reply] using ran)
    | late d => exact waited (by simpa [reply] using ran)
    | never => exact waited (by simpa [reply] using ran)

/-! ### What a history permits -/

/-- From a history on, a job makes only calls that `calls` permits after what it has been told by
then, and comes only to results that `ends` permits. -/
def Abides (calls : History → Effect → Prop) (ends : History → α → Prop) : Job α → History → Prop
  | .done a, h => ends h a
  | .call e _ k, h => calls h e ∧ ∀ r, (k r).Abides calls ends (h ++ [.answered e r])
  | .pause _ next, h => next.Abides calls ends (h ++ [.woke])
  | .wall k, h => ∀ t, (k t).Abides calls ends (h ++ [.read t])

variable {calls calls' : History → Effect → Prop} {ends ends' : History → α → Prop}

theorem Abides.mono (hcalls : ∀ h e, calls h e → calls' h e) (hends : ∀ h a, ends h a → ends' h a)
    {j : Job α} {h : History} (abides : j.Abides calls ends h) : j.Abides calls' ends' h := by
  induction j generalizing h with
  | done a => exact hends h a abides
  | wall k ih => exact fun t => ih t (abides t)
  | pause d next ih => exact ih abides
  | call e limit k ih => exact ⟨hcalls h e abides.1, fun r => ih r (abides.2 r)⟩

/-- Two restrictions on the results hold together. -/
theorem Abides.and {j : Job α} {h : History} (one : j.Abides calls ends h)
    (two : j.Abides calls' ends' h) : j.Abides calls (fun h a => ends h a ∧ ends' h a) h := by
  induction j generalizing h with
  | done a => exact ⟨one, two⟩
  | wall k ih => exact fun t => ih t (one t) (two t)
  | pause d next ih => exact ih one two
  | call e limit k ih => exact ⟨one.1, fun r => ih r (one.2 r) (two.2 r)⟩

/-- **A job that goes on abides if both of its parts do.** -/
theorem Abides.bind {mid : History → α → Prop} {ends : History → β → Prop} {j : Job α} {h : History}
    (first : j.Abides calls mid h) {f : α → Job β}
    (next : ∀ h a, mid h a → (f a).Abides calls ends h) : (j.bind f).Abides calls ends h := by
  induction j generalizing h with
  | done a => exact next h a first
  | wall k ih => exact fun t => ih t (first t)
  | pause d next' ih => exact ih first
  | call e limit k ih => exact ⟨first.1, fun r => ih r (first.2 r)⟩

/-- What abides still does when it has been told one more thing. -/
theorem Abides.moves {j j' : Job α} {x : Event} {h : History} (abides : j.Abides calls ends h)
    (move : Moves j x j') : j'.Abides calls ends (h ++ [x]) := by
  cases move with
  | answered e limit k r => exact abides.2 r
  | woke d next => exact abides
  | read k t => exact abides t

/-- What answers a job answers a call that it may make. -/
theorem Abides.permits {j j' : Job α} {e : Effect} {r : e.Result} {h : History}
    (abides : j.Abides calls ends h) (move : Moves j (.answered e r) j') : calls h e := by
  cases move with
  | answered e limit k r => exact abides.1

/-- **What abides at the start abides after every history.** -/
theorem After.abides {j j' : Job α} {h : History} (after : After j h j')
    (abides : j.Abides calls ends []) : j'.Abides calls ends h := by
  induction after with
  | start => exact abides
  | step _ move ih => exact ih.moves move

/-- A job comes to a result only after a history that leads there. -/
theorem After.traced {j j' : Job α} {h : History} (after : After j h j') :
    j'.Abides (fun _ _ => True) (fun h a => After j h (.done a)) h := by
  induction j' generalizing h with
  | done a => exact after
  | wall k ih => exact fun t => ih t (after.step (.read k t))
  | pause d next ih => exact ih (after.step (.woke d next))
  | call e limit k ih => exact ⟨trivial, fun r => ih r (after.step (.answered e limit k r))⟩

theorem Only.abides {p : Effect → Prop} {j : Job α} (only : j.Only p) (h : History) :
    j.Abides (fun _ e => p e) (fun _ _ => True) h := by
  induction j generalizing h with
  | done a => trivial
  | wall k ih => exact fun t => ih t (only t) _
  | pause d next ih => exact ih only _
  | call e limit k ih => exact ⟨only.1, fun r => ih r (only.2 r) _⟩

/-- A job that makes calls of one kind only has at its end been told the answers to such calls
only, besides what it had been told before. -/
theorem Only.told {p : Effect → Prop} {j : Job α} (only : j.Only p) {h : History}
    (before : ∀ e r, .answered e r ∈ h → p e) :
    j.Abides (fun _ _ => True) (fun h _ => ∀ e r, .answered e r ∈ h → p e) h := by
  induction j generalizing h with
  | done a => exact before
  | wall k ih => exact fun t => ih t (only t) fun e r mem => before e r (by simpa using mem)
  | pause d next ih => exact ih only fun e r mem => before e r (by simpa using mem)
  | call e limit k ih =>
    refine ⟨trivial, fun r => ih r (only.2 r) fun e' r' mem => ?_⟩
    rcases List.mem_append.mp mem with mem | mem
    · exact before e' r' mem
    · cases List.mem_singleton.mp mem
      exact only.1

/-- What answers a job answers a call of the kind that it makes. -/
theorem Only.of_told {p : Effect → Prop} {j j' : Job α} {h : History} (only : j.Only p)
    (after : After j h j') {e : Effect} {r : e.Result} (told : .answered e r ∈ h) : p e := by
  induction after with
  | start => cases told
  | step before move ih =>
    rcases List.mem_append.mp told with told | told
    · exact ih told
    · cases List.mem_singleton.mp told
      exact (before.abides (only.abides [])).permits move

end Job

end Gatehouse
