import Mathlib.Logic.Function.Basic
import Mathlib.Logic.Relation
import Gatehouse.Proofs.Job.History

/-!
Jobs side by side, in any order.

At every step one job is told one thing by what the jobs share: its call is answered, its pause is
over, or it reads the wall clock. What may be told, and what is shared afterwards, is a parameter. A
job that is given up takes no further steps.

* `Runs.after`: each job stands where its own history has led it, whatever the others do.
* `Step.mem_past`: what a job has been told, it was told by what was shared then. `Runs.past_prefix`: it is not
  taken back.
-/

namespace Gatehouse

/-- Jobs over something that they share, each with what it has been told so far. -/
structure Pool (S ι α : Type) where
  shared : S
  job : ι → Job α
  past : ι → History

namespace Pool

variable {S ι α : Type} [DecidableEq ι]

/-- Jobs that have been told nothing yet. -/
def start (jobs : ι → Job α) (shared : S) : Pool S ι α := ⟨shared, jobs, fun _ => []⟩

/-- One job has been told something; this is left of it and of what is shared. -/
def tell (σ : Pool S ι α) (i : ι) (x : Event) (j : Job α) (shared : S) : Pool S ι α :=
  ⟨shared, Function.update σ.job i j, Function.update σ.past i (σ.past i ++ [x])⟩

variable (Tells : S → Event → S → Prop)

/-- One step of one of the jobs. -/
inductive Step (σ : Pool S ι α) : Pool S ι α → Prop where
  | told (i : ι) {x : Event} {j : Job α} {shared : S} :
    Job.Moves (σ.job i) x j → Tells σ.shared x shared → Step σ (σ.tell i x j shared)

/-- Any number of steps, of any of the jobs in any order. -/
abbrev Runs : Pool S ι α → Pool S ι α → Prop := Relation.ReflTransGen (Step Tells)

variable {Tells} {jobs : ι → Job α} {shared : S} {σ σ' : Pool S ι α}

omit [DecidableEq ι] in
theorem start_job (jobs : ι → Job α) (shared : S) (i : ι) : (start jobs shared).job i = jobs i := rfl

@[simp] theorem tell_job_self (σ : Pool S ι α) (i : ι) (x : Event) (j : Job α) (shared : S) :
    (σ.tell i x j shared).job i = j := by
  simp [tell]

theorem tell_job_other (σ : Pool S ι α) {i i' : ι} (other : i' ≠ i) (x : Event) (j : Job α)
    (shared : S) : (σ.tell i x j shared).job i' = σ.job i' := by
  simp [tell, other]

@[simp] theorem tell_past_self (σ : Pool S ι α) (i : ι) (x : Event) (j : Job α) (shared : S) :
    (σ.tell i x j shared).past i = σ.past i ++ [x] := by
  simp [tell]

theorem mem_past_tell {i i' : ι} {x y : Event} {j : Job α} {m : S} :
    y ∈ (σ.tell i x j m).past i' ↔ y ∈ σ.past i' ∨ i' = i ∧ y = x := by
  by_cases same : i' = i
  · subst same
    simp [tell]
  · simp [tell, same]

/-! ### Runs -/

/-- A run goes on with a job that waits to be told something. -/
theorem Runs.told {σ₀ : Pool S ι α} (run : Runs Tells σ₀ σ) {i : ι} {x : Event} {j j' : Job α}
    (stands : σ.job i = j) (move : Job.Moves j x j') {shared : S}
    (tells : Tells σ.shared x shared) : Runs Tells σ₀ (σ.tell i x j' shared) :=
  run.tail (.told i (stands ▸ move) tells)

/-- A job that is told something goes on from where its own history has led it. -/
theorem Step.after (step : Step Tells σ σ') (stand : ∀ i, Job.After (jobs i) (σ.past i) (σ.job i)) (i : ι) :
    Job.After (jobs i) (σ'.past i) (σ'.job i) := by
  obtain ⟨i', move, -⟩ := step
  by_cases same : i = i'
  · subst same
    simpa [tell] using (stand i).step move
  · simpa [tell, same] using stand i

/-- **Each job stands where its own history has led it.** -/
theorem Runs.after (run : Runs Tells (start jobs shared) σ) (i : ι) :
    Job.After (jobs i) (σ.past i) (σ.job i) := by
  induction run generalizing i with
  | refl => exact .start
  | tail _ step ih => exact step.after ih i

/-- What a step tells is all that it adds to the histories. -/
theorem Step.mem_past (step : Step Tells σ σ') {i : ι} {y : Event} (told : y ∈ σ'.past i) :
    y ∈ σ.past i ∨ Tells σ.shared y σ'.shared := by
  obtain ⟨i', move, tells⟩ := step
  rcases mem_past_tell.mp told with told | ⟨-, rfl⟩
  · exact .inl told
  · exact .inr tells

/-- A step adds to what the jobs have been told. -/
theorem Step.past_prefix (step : Step Tells σ σ') (i : ι) : σ.past i <+: σ'.past i := by
  obtain ⟨i', move, tells⟩ := step
  by_cases same : i = i'
  · subst same
    rw [tell_past_self]
    exact List.prefix_append ..
  · simp [tell, same]

theorem Step.past_mono (step : Step Tells σ σ') {i : ι} {y : Event} (told : y ∈ σ.past i) :
    y ∈ σ'.past i :=
  (step.past_prefix i).subset told

/-- So does a run. -/
theorem Runs.past_prefix (run : Runs Tells σ σ') (i : ι) : σ.past i <+: σ'.past i := by
  induction run with
  | refl => exact List.prefix_rfl
  | tail _ step ih => exact ih.trans (step.past_prefix i)

/-- Each step tells one thing to one of the jobs. -/
theorem Step.tells (step : Step Tells σ σ') :
    ∃ i x, Tells σ.shared x σ'.shared ∧ x ∈ σ'.past i := by
  obtain ⟨i, move, tells⟩ := step
  exact ⟨i, _, tells, mem_past_tell.mpr (.inr ⟨rfl, rfl⟩)⟩

end Pool

end Gatehouse
