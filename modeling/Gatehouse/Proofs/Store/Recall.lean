import Gatehouse.Proofs.Job.Interleaving
import Gatehouse.Proofs.Store.Posts

/-!
What jobs have been told by a store in memory that they share.

A call of the store either takes effect at one instant, or fails and never reaches the data. What a
cache answers, and when clocks are read, is left open.

* `Runs.role`: a role that any job has been told still stands.
* `Runs.recalls`: a post that a job has been told under an id has at most been changed or deleted
  since: what stands there belongs to the same user. This is so until the last id is given out.
* `Runs.gives_all`: the last id is given out only after all others from the first one on.
* `Runs.first_le`: until then, no id is given out that had been given out before. `Runs.gives_all_of_lt` says what
  has happened once one is.
* `Runs.owner_of_told`: what a job has been told of whose a post is stays true, unless ids have started over and
  the id of the post has been given out.
-/

namespace Gatehouse

/-- What a store may tell to a job, and the store after that. -/
inductive Store.Memory.Tells (m : Memory) : Event → Memory → Prop where
  | read (t : Instant) : Tells m (.read t) m
  | woke : Tells m .woke m
  | cached (c : Cache.Call) (r : (Effect.cache c).Result) : Tells m (.answered (.cache c) r) m
  | failed (c : Call) (e : Error) : Tells m (.answered (.store c) (.error e)) m
  | performed (now : Instant) (c : Call) :
    Tells m (.answered (.store c) (m.perform now c).1) (m.perform now c).2

namespace Store.Memory

variable {m m' : Memory}

/-- How a call of the store is answered with a result. -/
theorem Tells.eq_perform {c : Call} {a : c.Answer}
    (tells : m.Tells (.answered (.store c) (.ok a)) m') :
    ∃ now, m.perform now c = (.ok a, m') := by
  generalize answer : (Except.ok a : (Effect.store c).Result) = r at tells
  cases tells with
  | failed c e => cases answer
  | performed now c => exact ⟨now, rfl⟩

/-- What a call of the store comes to may be told. -/
theorem Tells.of_perform (now : Instant) {c : Call} {r : (Effect.store c).Result}
    (performed : m.perform now c = (r, m')) : m.Tells (.answered (.store c) r) m' := by
  have tells := Tells.performed (m := m) now c
  rwa [performed] at tells

theorem answer_eq_ok {α : Type} {x : Option α} {a : α} (h : m.answer x = (.ok a, m')) :
    x = some a ∧ m' = m := by
  cases x with
  | none => cases h
  | some a =>
    cases h
    exact ⟨rfl, rfl⟩

/-- What is told is either a post that has been created, or leaves the posts as they were but for
changes and deletions. -/
theorem Tells.keeps_or {x : Event} (tells : m.Tells x m') :
    (m.Keeps m' ∧ ∀ d p, x ≠ .answered (.store (.createPost d)) (.ok p)) ∨
    ∃ now d, x = .answered (.store (.createPost d)) (m.createPost now d).1 ∧
      m' = (m.createPost now d).2 := by
  cases tells with
  | performed now c =>
    by_cases creation : ∃ d, c = .createPost d
    · obtain ⟨d, rfl⟩ := creation
      exact .inr ⟨now, d, rfl, rfl⟩
    · refine .inl ⟨m.perform_keeps now fun d same => creation ⟨d, same⟩, fun d p same => ?_⟩
      exact creation ⟨d, Effect.store.inj (Event.answered.inj same).1⟩
  | _ => exact .inl ⟨.refl m, fun d p same => nomatch same⟩

theorem Tells.roles {x : Event} (tells : m.Tells x m') : m'.roles = m.roles := by
  rcases tells.keeps_or with ⟨keeps, -⟩ | ⟨now, d, -, rfl⟩
  · exact keeps.roles
  · rfl

/-- As long as a store does not give out the last id, its posts keep their ids and their owners. -/
theorem Tells.descends {x : Event} (tells : m.Tells x m')
    (more : ∀ d p, x = .answered (.store (.createPost d)) (.ok p) → p.id ≠ Int64.maxValue) :
    m.Descends m' := by
  cases tells with
  | performed now c =>
    refine m.perform_descends now c ?_
    rintro d rfl
    exact more d _ rfl
  | _ => exact (Memory.Keeps.refl m).descends

end Store.Memory

namespace Pool

open Store (Memory)

variable {ι α : Type} [DecidableEq ι] {jobs : ι → Job α} {store : Memory} {σ σ' : Pool Memory ι α}

/-! ### Roles -/

/-- **A role that a job has been told still stands.** -/
theorem Runs.role (run : Runs Memory.Tells (start jobs store) σ) {i : ι} {name : String} {role : Role}
    (told : .answered (.store (.roleByName name)) (.ok role) ∈ σ.past i) :
    σ.shared.role? name = some role := by
  induction run with
  | refl => cases told
  | @tail σ σ' _ step ih =>
    obtain ⟨_, _, tells, -⟩ := step.tells
    rw [Memory.role?, tells.roles]
    rcases step.mem_past told with told | tells
    · exact ih told
    · obtain ⟨now, performed⟩ := tells.eq_perform
      exact (Memory.answer_eq_ok performed).1

/-! ### Posts -/

/-- A job has been told that it has created a post under an id. -/
def Gives (σ : Pool Memory ι α) (id : Int64) : Prop :=
  ∃ i d p, .answered (.store (.createPost d)) (.ok p) ∈ σ.past i ∧ p.id = id

/-- Every id from one on has been given out. -/
def GivesAll (σ : Pool Memory ι α) (first : Int64) : Prop := ∀ id, first ≤ id → σ.Gives id

/-- The last id that there is has been given out. -/
def Exhausted (σ : Pool Memory ι α) : Prop := σ.Gives Int64.maxValue

theorem Gives.step {id : Int64} (gives : σ.Gives id) (step : Step Memory.Tells σ σ') : σ'.Gives id := by
  obtain ⟨i, d, p, told, same⟩ := gives
  exact ⟨i, d, p, step.past_mono told, same⟩

/-- A step gives out the next id, which then moves on, or none. -/
theorem gives_of_step (step : Step Memory.Tells σ σ') :
    (σ'.shared.nextPostId = σ.shared.nextPostId ∧ ∀ id, σ'.Gives id → σ.Gives id) ∨
    (σ'.shared.nextPostId = σ.shared.nextPostId + 1 ∧ σ'.Gives σ.shared.nextPostId ∧
      ∀ id, σ'.Gives id → σ.Gives id ∨ id = σ.shared.nextPostId) := by
  obtain ⟨i, move, tells⟩ := step
  rcases tells.keeps_or with ⟨keeps, other⟩ | ⟨now, d, rfl, rfl⟩
  · refine .inl ⟨keeps.counter, ?_⟩
    rintro id ⟨i', d, p, told, rfl⟩
    rcases mem_past_tell.mp told with told | ⟨-, rfl⟩
    · exact ⟨i', d, p, told, rfl⟩
    · exact absurd rfl (other d p)
  · refine .inr ⟨rfl, ⟨i, d, _, mem_past_tell.mpr (.inr ⟨rfl, rfl⟩), rfl⟩, ?_⟩
    rintro id ⟨i', d', p, told, rfl⟩
    rcases mem_past_tell.mp told with told | ⟨-, same⟩
    · exact .inl ⟨i', d', p, told, rfl⟩
    · cases same
      exact .inr rfl

/-- **The last id is given out only after all others from the first one on.** -/
theorem Runs.gives_all (run : Runs Memory.Tells (start jobs store) σ) (exhausted : σ.Exhausted) :
    σ.GivesAll store.nextPostId := by
  -- Until then, the ids that have been given out are those from the first one up to the next one.
  have counted : (store.nextPostId ≤ σ.shared.nextPostId ∧
      (∀ id, store.nextPostId ≤ id → id < σ.shared.nextPostId → σ.Gives id) ∧
      ∀ id, σ.Gives id → id < σ.shared.nextPostId) ∨
      σ.GivesAll store.nextPostId := by
    clear exhausted
    induction run with
    | refl =>
      refine .inl ⟨Int64.le_refl _, fun id low high => ?_, ?_⟩
      · exact absurd high (Int64.not_lt.mpr low)
      · rintro id ⟨i, d, p, told, -⟩
        cases told
    | @tail σ σ' _ step ih =>
      rcases ih with ⟨grown, given, below⟩ | all
      · rcases gives_of_step step with ⟨same, old⟩ | ⟨moved, new, old⟩
        · rw [same]
          exact .inl ⟨grown, fun id low high => (given id low high).step step,
            fun id gives => below id (old id gives)⟩
        by_cases last : σ.shared.nextPostId = Int64.maxValue
        · refine .inr fun id low => ?_
          by_cases high : id < σ.shared.nextPostId
          · exact (given id low high).step step
          · have : id = σ.shared.nextPostId :=
              Int64.le_antisymm (last ▸ Int64.le_maxValue id) (Int64.not_lt.mp high)
            exact this ▸ new
        · have next := Int64.lt_add_one last
          rw [moved]
          refine .inl ⟨Int64.le_trans grown (Int64.le_of_lt next), fun id low high => ?_,
            fun id gives => ?_⟩
          · by_cases old : id < σ.shared.nextPostId
            · exact (given id low old).step step
            · have : id = σ.shared.nextPostId := Int64.eq_of_lt_add_one last high (Int64.not_lt.mp old)
              exact this ▸ new
          · rcases old id gives with gives | rfl
            · exact Int64.lt_trans (below id gives) next
            · exact next
      · exact .inr fun id low => (all id low).step step
  rcases counted with ⟨-, -, below⟩ | all
  · exact absurd (below _ exhausted) (Int64.not_lt.mpr (Int64.le_maxValue _))
  · exact all

/-- **Until the last id is given out, no other one is given out twice**: the ids that are given out lie above
those that had been given out before. -/
theorem Runs.first_le (run : Runs Memory.Tells (start jobs store) σ) (more : ¬ σ.Exhausted) :
    store.nextPostId ≤ σ.shared.nextPostId ∧ ∀ id, σ.Gives id → store.nextPostId ≤ id := by
  induction run with
  | refl =>
    refine ⟨Int64.le_refl _, ?_⟩
    rintro id ⟨i, d, p, told, -⟩
    cases told
  | @tail σ σ' _ step ih =>
    obtain ⟨grown, given⟩ := ih fun before => more (Gives.step before step)
    rcases gives_of_step step with ⟨same, old⟩ | ⟨moved, new, old⟩
    · exact ⟨same ▸ grown, fun id gives => given id (old id gives)⟩
    · have notLast : σ.shared.nextPostId ≠ Int64.maxValue := by
        intro last
        rw [last] at new
        exact more new
      have next := Int64.lt_add_one notLast
      refine ⟨moved ▸ Int64.le_trans grown (Int64.le_of_lt next), fun id gives => ?_⟩
      rcases old id gives with gives | rfl
      · exact given id gives
      · exact grown

/-- What the jobs have been told of posts agrees with the store: the id has been given out, and the
post that stands there now, if one does, belongs to the same user. -/
structure Recalls (σ : Pool Memory ι α) : Prop where
  numbered : σ.shared.Numbered
  post : ∀ i id p, .answered (.store (.postById id)) (.ok p) ∈ σ.past i →
    id < σ.shared.nextPostId ∧ ∀ q, σ.shared.posts.find? id = some q → q.userId = p.userId

theorem Recalls.step (recalls : σ.Recalls) (step : Step Memory.Tells σ σ') (more : ¬ σ'.Exhausted) :
    σ'.Recalls := by
  obtain ⟨i, x, tells, told⟩ := step.tells
  have descends : σ.shared.Descends σ'.shared := by
    apply tells.descends
    rintro d p rfl last
    exact more ⟨i, d, p, told, last⟩
  refine ⟨descends.numbered recalls.numbered, fun i id p told => ?_⟩
  rcases step.mem_past told with told | tells
  · obtain ⟨old, owner⟩ := recalls.post i id p told
    refine ⟨Int64.lt_of_lt_of_le old descends.counter, fun q hq => ?_⟩
    obtain ⟨p', hp', same⟩ := descends.owner id q old hq
    exact same.trans (owner p' hp')
  · obtain ⟨now, performed⟩ := tells.eq_perform
    obtain ⟨found, same⟩ := Memory.answer_eq_ok performed
    rw [same]
    refine ⟨recalls.numbered id p found, fun q hq => ?_⟩
    cases found.symm.trans hq
    rfl

/-- **What jobs have been told of posts stays true of their owners**, until the last id is given
out. -/
theorem Runs.recalls (run : Runs Memory.Tells (start jobs store) σ) (numbered : store.Numbered)
    (more : ¬ σ.Exhausted) : σ.Recalls := by
  induction run with
  | refl => exact ⟨numbered, fun i id p told => nomatch told⟩
  | tail _ step ih => exact (ih fun before => more (Gives.step before step)).step step more

/-- A step leaves what stands under an id with its owner, if it does not give out that id. -/
theorem owner_of_step (step : Step Memory.Tells σ σ') {id : Int64} (apart : ¬ σ'.Gives id) {q : Post}
    (stands : σ'.shared.posts.find? id = some q) :
    ∃ p, σ.shared.posts.find? id = some p ∧ q.userId = p.userId := by
  obtain ⟨i, x, tells, told⟩ := step.tells
  rcases tells.keeps_or with ⟨keeps, -⟩ | ⟨now, d, rfl, same⟩
  · exact keeps.owner id q stands
  · have other : σ.shared.nextPostId ≠ id := fun new => apart ⟨i, d, _, told, new⟩
    rw [same] at stands
    exact ⟨q, (Table.find?_insert_of_ne other ..).symm.trans stands, rfl⟩

/-- **Under an id that has not been given out, no post changes hands.** -/
theorem Runs.owner_of_not_gives (run : Runs Memory.Tells (start jobs store) σ) {id : Int64}
    (apart : ¬ σ.Gives id) {i : ι} {p q : Post}
    (told : .answered (.store (.postById id)) (.ok p) ∈ σ.past i)
    (stands : σ.shared.posts.find? id = some q) : q.userId = p.userId := by
  induction run generalizing q with
  | refl => cases told
  | tail _ step ih =>
    rcases step.mem_past told with told | tells
    · obtain ⟨q', stood, same⟩ := owner_of_step step apart stands
      exact same.trans (ih (fun gives => apart (gives.step step)) told stood)
    · obtain ⟨now, performed⟩ := tells.eq_perform
      obtain ⟨found, same⟩ := Memory.answer_eq_ok performed
      rw [same] at stands
      cases found.symm.trans stands
      rfl

/-- **What a job has been told of whose a post is stays true**, unless every id from the first one on has been
given out, and the id of the post among all. -/
theorem Runs.owner_of_told (run : Runs Memory.Tells (start jobs store) σ) (numbered : store.Numbered)
    {id : Int64} (once : ¬ (σ.GivesAll store.nextPostId ∧ σ.Gives id)) {i : ι} {p q : Post}
    (told : .answered (.store (.postById id)) (.ok p) ∈ σ.past i)
    (stands : σ.shared.posts.find? id = some q) : q.userId = p.userId := by
  by_cases gives : σ.Gives id
  · have more : ¬ σ.Exhausted := fun exhausted => once ⟨run.gives_all exhausted, gives⟩
    exact ((run.recalls numbered more).post i id p told).2 q stands
  · exact run.owner_of_not_gives gives told stands

/-- An id below the first one is given out only once all others have been. -/
theorem Runs.gives_all_of_lt (run : Runs Memory.Tells (start jobs store) σ) {id : Int64}
    (older : id < store.nextPostId) (gives : σ.Gives id) : σ.GivesAll store.nextPostId := by
  by_contra more
  have first := (run.first_le fun exhausted => more (run.gives_all exhausted)).2 id gives
  exact Int64.not_lt.mpr first older

end Pool

end Gatehouse
