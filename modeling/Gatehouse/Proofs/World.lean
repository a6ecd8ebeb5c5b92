import Mathlib.Data.List.Nodup
import Gatehouse.Proofs.Job.Premises
import Gatehouse.Proofs.Store.Recall

/-!
What a world does with its jobs is one of the runs of jobs side by side.

A world answers calls by its script and wakes jobs by its timers. Each thing that it then tells to a
job is one that may be told by what the jobs share, so what holds of all runs holds of the ones that are
carried out. What the jobs share is a parameter: their store, or their store and cache at a moment.

* `World.Shares`: a world tells to its jobs what they may be told.
* `Job.run_reaches`: a job that runs alone, up to a deadline, whatever others have done before.
* `Thread.runAll_reaches`: jobs that are started together and woken as their timers come.
* `Thread.runAll_runs`, `Thread.runAll_course`: the same over a store, and over a store and a cache.
-/

namespace Gatehouse

open Store (Memory)

/-! ### What a world tells -/

/-- A world shares something with its jobs: whatever it tells to one of them may be told, and what is shared
after that shows in the world. -/
structure World.Shares {S : Type} (Tells : S → Event → S → Prop) (Shows : World → S → Prop) : Prop where
  reach : ∀ {w m} (tick : Nat), Shows w m → Shows (w.reach tick) m
  dial : ∀ {w m} (e : Effect), Shows w m → Shows (w.dial e).2 m
  perform : ∀ {w m} (e : Effect), Shows w m →
    ∃ m', Tells m (.answered e (w.perform e).1) m' ∧ Shows (w.perform e).2 m'
  given : ∀ {mishap e r} m, Reply.under mishap e = .given r → Tells m (.answered e r) m
  timedOut : ∀ m e limit, Tells m (.answered e (.error (e.timedOut limit))) m
  woke : ∀ m, Tells m .woke m
  read : ∀ m t, Tells m (.read t) m

namespace World

variable (w : World)

theorem giveUp_backend (deadline : Option Nat) : (w.giveUp deadline).backend = w.backend := by
  cases deadline <;> rfl

/-- A call that takes effect is answered by the store as it stands, or by the cache. -/
theorem tells_perform (e : Effect) :
    w.backend.store.Tells (.answered e (w.perform e).1) (w.perform e).2.backend.store := by
  cases e with
  | store c => exact .performed w.today c
  | cache c => exact .cached c _

end World

/-- What a mishap answers in place of the data never reaches the store. -/
theorem Reply.tells_given {mishap : Option Mishap} {e : Effect} {r : e.Result}
    (given : Reply.under mishap e = .given r) (m : Memory) : m.Tells (.answered e r) m := by
  cases e with
  | cache c => exact .cached c r
  | store c =>
    rcases mishap with _ | mishap
    · cases given
    cases mishap with
    | store error =>
      obtain rfl := Reply.given.inj given
      exact .failed c error
    | _ => cases given

/-- A call that is not answered within its limit never reaches the store. -/
theorem Effect.tells_timedOut (e : Effect) (limit : Duration) (m : Memory) :
    m.Tells (.answered e (.error (e.timedOut limit))) m := by
  cases e with
  | store c => exact .failed c _
  | cache c => exact .cached c _

/-! ### Steps of one job -/

variable {S ι α : Type} {Tells : S → Event → S → Prop} {Shows : World → S → Prop}

theorem World.Shares.giveUp (shares : Shares Tells Shows) {w : World} {m : S} (shown : Shows w m)
    (deadline : Option Nat) : Shows (w.giveUp deadline) m := by
  cases deadline with
  | none => exact shown
  | some d => exact shares.reach d shown

namespace Pool

variable [DecidableEq ι] {σ σ' σ'' : Pool S ι α}

/-- Steps of some of the jobs lead from one pool to another. -/
structure Advances (Tells : S → Event → S → Prop) (among : ι → Prop) (σ σ' : Pool S ι α) : Prop where
  runs : Runs Tells σ σ'
  others : ∀ i, ¬ among i → σ'.job i = σ.job i

theorem Advances.refl (among : ι → Prop) (σ : Pool S ι α) : Advances Tells among σ σ :=
  ⟨.refl, fun _ _ => rfl⟩

theorem Advances.trans {among : ι → Prop} (one : Advances Tells among σ σ')
    (two : Advances Tells among σ' σ'') : Advances Tells among σ σ'' := by
  refine ⟨one.runs.trans two.runs, ?_⟩
  intro i other
  rw [two.others i other, one.others i other]

theorem Advances.mono {among among' : ι → Prop} (sub : ∀ i, among i → among' i)
    (advances : Advances Tells among σ σ') : Advances Tells among' σ σ' := by
  refine ⟨advances.runs, ?_⟩
  intro i other
  exact advances.others i fun one => other (sub i one)

/-- They go on with another step of one of these jobs. -/
theorem Advances.told {among : ι → Prop} (advances : Advances Tells among σ σ') {i : ι} (one : among i)
    {x : Event} {j j' : Job α} {m : S} (stands : σ'.job i = j) (move : Job.Moves j x j')
    (tells : Tells σ'.shared x m) : Advances Tells among σ (σ'.tell i x j' m) := by
  refine ⟨advances.runs.told stands move tells, ?_⟩
  intro i' other
  have apart : i' ≠ i := fun same => other (same ▸ one)
  rw [tell_job_other σ' apart, advances.others i' other]

/-- Steps of one job lead to where it stands as given, over what is shared as given. -/
def Reaches (Tells : S → Event → S → Prop) (σ : Pool S ι α) (i : ι) (p : Job α → S → Prop) : Prop :=
  ∃ σ', Advances Tells (· = i) σ σ' ∧ p (σ'.job i) σ'.shared

theorem Reaches.here {i : ι} {p : Job α → S → Prop} {j : Job α} (stands : σ.job i = j)
    (holds : p j σ.shared) : σ.Reaches Tells i p := by
  subst stands
  exact ⟨σ, .refl _ σ, holds⟩

/-- What a job reaches once it has been told something, it reaches. -/
theorem Reaches.told {i : ι} {p : Job α → S → Prop} {x : Event} {j j' : Job α} {m : S}
    (stands : σ.job i = j) (move : Job.Moves j x j') (tells : Tells σ.shared x m)
    (next : ∀ σ' : Pool S ι α, σ'.job i = j' → σ'.shared = m → σ'.Reaches Tells i p) :
    σ.Reaches Tells i p := by
  obtain ⟨σ', advances, holds⟩ := next (σ.tell i x j' m) (tell_job_self ..) rfl
  have step := (Advances.refl (· = i) σ).told rfl stands move tells
  exact ⟨σ', step.trans advances, holds⟩

end Pool

/-! ### One job -/

namespace Job

open Pool

variable [DecidableEq ι] {σ : Pool S ι α} {i : ι}

/-- A run has left a job as it stands, at its result if it has come to one, and what is shared as it
shows. -/
def Left (Shows : World → S → Prop) (out : Option α × World) (j : Job α) (m : S) : Prop :=
  (∀ a, out.1 = some a → j = .done a) ∧ Shows out.2 m

theorem left_none {w : World} {m : S} (shown : Shows w m) (j : Job α) :
    Left Shows ((none : Option α), w) j m :=
  ⟨fun _ eq => (nomatch eq), shown⟩

/-- **A job that runs alone takes steps that its world may tell it.** -/
theorem run_reaches (shares : World.Shares Tells Shows) (deadline : Option Nat) (j : Job α) (w : World)
    (stands : σ.job i = j) (shown : Shows w σ.shared) :
    σ.Reaches Tells i (Left Shows (j.run deadline w)) := by
  induction j generalizing σ w with
  | done a => exact .here stands ⟨fun _ eq => congrArg Job.done (Option.some.inj eq), shown⟩
  | wall k ih =>
    refine .told stands (.read k w.today) (shares.read _ _) ?_
    intro σ' stands shared
    exact ih w.today w stands (shared ▸ shown)
  | pause d next ih =>
    simp only [Job.run]
    split
    · exact .here stands (left_none (shares.giveUp shown deadline) _)
    · refine .told stands (.woke d next) (shares.woke _) ?_
      intro σ' stands shared
      exact ih (w.reach _) stands (shared ▸ shares.reach _ shown)
  | call e limit k ih =>
    -- However the call is answered, the job goes on from there.
    have go : ∀ r (w' : World) m, Tells σ.shared (.answered e r) m → Shows w' m →
        σ.Reaches Tells i (Left Shows ((k r).run deadline w')) := by
      intro r w' m tells shown
      refine .told stands (.answered e limit k r) tells ?_
      intro σ' stands shared
      exact ih r w' stands (shared ▸ shown)
    have dialled := shares.dial e shown
    have waited : ∀ wake, σ.Reaches Tells i (Left Shows (Job.awaited deadline e limit k (w.dial e).2 wake)) := by
      intro wake
      cases wake with
      | none => exact .here stands (left_none (shares.giveUp dialled deadline) _)
      | some wake =>
        simp only [Job.awaited]
        split
        · exact .here stands (left_none (shares.giveUp dialled deadline) _)
        · cases wake with
          | arrival tick =>
            obtain ⟨m, tells, shown⟩ := shares.perform e (shares.reach tick dialled)
            exact go _ _ m tells shown
          | limit tick => exact go _ _ _ (shares.timedOut _ e _) (shares.reach tick dialled)
    rw [Job.run_call]
    cases reply : (w.dial e).1 with
    | given r => exact go r _ _ (shares.given _ reply) dialled
    | prompt =>
      obtain ⟨m, tells, shown⟩ := shares.perform e dialled
      exact go _ _ m tells shown
    | late d => exact waited _
    | never => exact waited _

end Job

/-! ### Jobs side by side -/

namespace Thread

open Pool

/-- Where a job stands that is under way. -/
inductive Stands : Thread α → Job α → Prop where
  | finished (a : α) : Stands (.finished a) (.done a)
  | calling (e : Effect) (k : e.Result → Job α) (limit : Duration) (arrival deadline : Option Nat)
    (given : Option Duration) : Stands (.calling e k limit arrival deadline) (.call e given k)
  | sleeping (tick : Nat) (next : Job α) (d : Duration) :
    Stands (.sleeping tick next) (.pause d next)

/-- A job stands where it has come to wait, over what shows in its world. -/
def Waits (Shows : World → S → Prop) (out : Thread α × World) (j : Job α) (m : S) : Prop :=
  out.1.Stands j ∧ Shows out.2 m

/-- A call that is not answered at once is waited for like one that was made before. -/
theorem proceed_call (e : Effect) (limit : Option Duration) (k : e.Result → Job α) (w : World) :
    proceed (.call e limit k) w =
      match (w.dial e).1 with
      | .given r => proceed (k r) (w.dial e).2
      | .prompt => proceed (k ((w.dial e).2.perform e).1) ((w.dial e).2.perform e).2
      | .late d => resume (.calling e k (limit.getD default) (some ((w.dial e).2.clock.timer d))
          (limit.map (w.dial e).2.clock.timer)) (w.dial e).2
      | .never => resume (.calling e k (limit.getD default) none
          (limit.map (w.dial e).2.clock.timer)) (w.dial e).2 := by
  rw [proceed]
  rcases w.dial e with ⟨reply, w'⟩
  cases reply with
  | given r => rfl
  | prompt => rfl
  | never => cases limit <;> rfl
  | late d =>
    cases limit with
    | none => rfl
    | some l =>
      by_cases first : w'.clock.timer d ≤ w'.clock.timer l
      · simp only [resume, Wake.first, Option.map_some, if_pos first]
      · simp only [resume, Wake.first, Option.map_some, if_neg first]

section Steps

variable [DecidableEq ι] {σ : Pool S ι α} {i : ι} (shares : World.Shares Tells Shows)

include shares

/-- A job that waits for a call takes the next step if that ends its wait. -/
theorem resume_calling_reaches {e : Effect} {k : e.Result → Job α} {given : Option Duration}
    (next : ∀ (σ : Pool S ι α) r w, σ.job i = k r → Shows w σ.shared →
      σ.Reaches Tells i (Waits Shows (proceed (k r) w)))
    (limit : Duration) (arrival deadline : Option Nat) (w : World)
    (stands : σ.job i = .call e given k) (shown : Shows w σ.shared) :
    σ.Reaches Tells i (Waits Shows (resume (.calling e k limit arrival deadline) w)) := by
  have waits : σ.Reaches Tells i (Waits Shows (.calling e k limit arrival deadline, w)) :=
    .here stands ⟨.calling e k limit arrival deadline given, shown⟩
  have go : ∀ r (w' : World) m, Tells σ.shared (.answered e r) m → Shows w' m →
      σ.Reaches Tells i (Waits Shows (proceed (k r) w')) := by
    intro r w' m tells shown
    refine .told stands (.answered e given k r) tells ?_
    intro σ' stands shared
    exact next σ' r w' stands (shared ▸ shown)
  simp only [resume]
  split
  · split
    · obtain ⟨m, tells, shown⟩ := shares.perform e shown
      exact go _ _ m tells shown
    · exact waits
  · split
    · exact go _ w _ (shares.timedOut _ e limit) shown
    · exact waits
  · exact waits

theorem proceed_reaches (j : Job α) (w : World) (stands : σ.job i = j) (shown : Shows w σ.shared) :
    σ.Reaches Tells i (Waits Shows (proceed j w)) := by
  induction j generalizing σ w with
  | done a => exact .here stands ⟨.finished a, shown⟩
  | wall k ih =>
    refine .told stands (.read k w.today) (shares.read _ _) ?_
    intro σ' stands shared
    exact ih w.today w stands (shared ▸ shown)
  | pause d next ih =>
    simp only [proceed]
    split
    · refine .told stands (.woke d next) (shares.woke _) ?_
      intro σ' stands shared
      exact ih w stands (shared ▸ shown)
    · exact .here stands ⟨.sleeping _ next d, shown⟩
  | call e limit k ih =>
    have dialled := shares.dial e shown
    have later := fun arrival deadline => resume_calling_reaches shares (fun σ r w => ih r w)
      (limit.getD default) arrival deadline (w.dial e).2 stands dialled
    rw [proceed_call]
    cases reply : (w.dial e).1 with
    | given r =>
      refine .told stands (.answered e limit k r) (shares.given _ reply) ?_
      intro σ' stands shared
      exact ih r (w.dial e).2 stands (shared ▸ dialled)
    | prompt =>
      obtain ⟨m, tells, shown⟩ := shares.perform e dialled
      refine .told stands (.answered e limit k _) tells ?_
      intro σ' stands shared
      exact ih _ _ stands (shared ▸ shown)
    | late d => exact later _ _
    | never => exact later _ _

/-- **A job that can go on takes steps that its world may tell it**, and stands where it next has to
wait. -/
theorem resume_reaches {t : Thread α} (w : World) (stands : t.Stands (σ.job i))
    (shown : Shows w σ.shared) : σ.Reaches Tells i (Waits Shows (resume t w)) := by
  generalize stood : σ.job i = j at stands
  cases stands with
  | finished a => exact .here stood ⟨.finished a, shown⟩
  | calling e k limit arrival deadline given =>
    exact resume_calling_reaches shares
      (fun σ r w stood shown => proceed_reaches shares _ w stood shown)
      limit arrival deadline w stood shown
  | sleeping tick next d =>
    simp only [resume]
    split
    · refine .told stood (.woke d next) (shares.woke _) ?_
      intro σ' stood shared
      exact proceed_reaches shares next w stood (shared ▸ shown)
    · exact .here stood ⟨.sleeping tick next d, shown⟩

end Steps

/-! ### Queues -/

/-- The places of the jobs of a queue. -/
abbrev places (q : Queue α) : List ℕ := q.map Prod.fst

/-- The jobs of a queue stand where they wait, each at a place of its own, over what shows in a
world. -/
structure Lines (Shows : World → S → Prop) (σ : Pool S ℕ α) (q : Queue α) (w : World) : Prop where
  apart : (places q).Nodup
  stands : ∀ p ∈ q, p.2.Stands (σ.job p.1)
  shown : Shows w σ.shared

variable {σ : Pool S ℕ α} {q : Queue α} {w : World}

theorem resumeAll_places (q : Queue α) (w : World) : places (resumeAll q w).1 = places q := by
  induction q generalizing w with
  | nil => rfl
  | cons p q ih => exact congrArg (p.1 :: ·) (ih (resume p.2 w).2)

theorem resumeAll_lines (shares : World.Shares Tells Shows) (lines : Lines Shows σ q w) :
    ∃ σ', Advances Tells (· ∈ places q) σ σ' ∧ Lines Shows σ' (resumeAll q w).1 (resumeAll q w).2 := by
  induction q generalizing σ w with
  | nil => exact ⟨σ, .refl _ σ, lines⟩
  | cons p q ih =>
    obtain ⟨first, rest⟩ := List.nodup_cons.mp lines.apart
    obtain ⟨σ₁, one, stood, shown⟩ := resume_reaches shares w (lines.stands p (.head _)) lines.shown
    have lines₁ : Lines Shows σ₁ q (resume p.2 w).2 := by
      refine ⟨rest, fun p' mem => ?_, shown⟩
      rw [one.others p'.1 fun same => first (same ▸ List.mem_map_of_mem mem)]
      exact lines.stands p' (.tail _ mem)
    obtain ⟨σ₂, two, lines₂⟩ := ih lines₁
    refine ⟨σ₂, (one.mono ?_).trans (two.mono fun i => .tail _), ?_, ?_, lines₂.shown⟩
    · rintro i rfl
      exact .head _
    · rw [resumeAll_places]
      exact lines.apart
    · rintro p' (_ | ⟨_, mem⟩)
      · exact two.others p.1 first ▸ stood
      · exact lines₂.stands p' mem

/-- The jobs that are due at a tick go on, and line up again behind the others. -/
theorem due_lines (shares : World.Shares Tells Shows) (tick : ℕ) (lines : Lines Shows σ q w) :
    let due := q.filter fun p => isDue tick p.2
    let waiting := q.filter (not ∘ fun p => isDue tick p.2)
    ∃ σ', Runs Tells σ σ' ∧
      Lines Shows σ' (waiting ++ (resumeAll due (w.reach tick)).1) (resumeAll due (w.reach tick)).2 := by
  intro due waiting
  have apart : (places due ++ places waiting).Nodup := by
    rw [← List.map_append]
    exact ((List.filter_append_perm _ q).map Prod.fst).nodup_iff.mpr lines.apart
  have dueLines : Lines Shows σ due (w.reach tick) :=
    ⟨apart.of_append_left, fun p mem => lines.stands p (List.mem_filter.mp mem).1,
      shares.reach tick lines.shown⟩
  obtain ⟨σ', one, lines'⟩ := resumeAll_lines shares dueLines
  refine ⟨σ', one.runs, ?_, fun p mem => ?_, lines'.shown⟩
  · rw [places, List.map_append, ← places, ← places, resumeAll_places]
    exact List.nodup_append_comm.mp apart
  · rcases List.mem_append.mp mem with mem | mem
    · rw [one.others p.1 fun due => apart.disjoint due (List.mem_map_of_mem mem)]
      exact lines.stands p (List.mem_filter.mp mem).1
    · exact lines'.stands p mem

/-- **However often jobs are woken, they take steps that their world may tell them.** -/
theorem settle_lines (shares : World.Shares Tells Shows) (fuel : ℕ) (lines : Lines Shows σ q w) :
    ∃ σ', Runs Tells σ σ' ∧ Lines Shows σ' (settle fuel q w).1 (settle fuel q w).2 := by
  induction fuel generalizing σ q w with
  | zero => exact ⟨σ, .refl, lines⟩
  | succ fuel ih =>
    simp only [settle]
    split
    · exact ⟨σ, .refl, lines⟩
    · next tick _ =>
      simp only [List.partition_eq_filter_filter]
      obtain ⟨σ₁, one, lines₁⟩ := due_lines shares tick lines
      obtain ⟨σ₂, two, lines₂⟩ := ih lines₁
      exact ⟨σ₂, one.trans two, lines₂⟩

/-- A job that has its result in a queue stands at it. -/
theorem Lines.job_eq_done (lines : Lines Shows σ q w) {i : ℕ} {a : α}
    (result : (q.lookup i).bind result? = some a) : σ.job i = .done a := by
  obtain ⟨t, found, ends⟩ := Option.bind_eq_some_iff.mp result
  obtain ⟨before, after, rfl, -⟩ := List.lookup_eq_some_iff.mp found
  have stands : t.Stands (σ.job i) := lines.stands (i, t) (by simp)
  generalize σ.job i = j at stands ⊢
  cases stands with
  | finished b =>
    cases ends
    rfl
  | calling => cases ends
  | sleeping => cases ends

theorem startAll_places (place : ℕ) (jobs : List (Job α)) (w : World) :
    places (startAll place jobs w).1 = List.range' place jobs.length := by
  induction jobs generalizing place w with
  | nil => rfl
  | cons j jobs ih => exact congrArg (place :: ·) (ih (place + 1) (proceed j w).2)

theorem startAll_lines (shares : World.Shares Tells Shows) (place : ℕ) (jobs : List (Job α)) (w : World)
    (stands : ∀ k (h : k < jobs.length), σ.job (place + k) = jobs[k]) (shown : Shows w σ.shared) :
    ∃ σ', Advances Tells (place ≤ ·) σ σ' ∧
      Lines Shows σ' (startAll place jobs w).1 (startAll place jobs w).2 := by
  induction jobs generalizing σ place w with
  | nil => exact ⟨σ, .refl _ σ, .nil, fun p mem => (nomatch mem), shown⟩
  | cons j jobs ih =>
    obtain ⟨σ₁, one, stood, shown₁⟩ := proceed_reaches shares j w (stands 0 (by simp)) shown
    have rest : ∀ k (h : k < jobs.length), σ₁.job (place + 1 + k) = jobs[k] := by
      intro k h
      rw [one.others _ (by omega), show place + 1 + k = place + (k + 1) by omega,
        stands (k + 1) (by simpa using h)]
      rfl
    obtain ⟨σ₂, two, lines⟩ := ih (place + 1) (proceed j w).2 rest shown₁
    refine ⟨σ₂, (one.mono ?_).trans (two.mono fun i => Nat.le_of_succ_le), ?_, ?_, lines.shown⟩
    · rintro i rfl
      exact Nat.le_refl _
    · rw [startAll_places]
      exact List.nodup_range'
    · rintro p (_ | ⟨_, mem⟩)
      · exact two.others place (by omega) ▸ stood
      · exact lines.stands p mem

/-- **Jobs that a world runs side by side go through one of the runs of jobs side by side**: their
results are the ones that the jobs have come to in it, and what is shared then shows in the world. -/
theorem runAll_reaches (shares : World.Shares Tells Shows) (rounds n : ℕ) (jobs : ℕ → Job α) {w : World}
    {m : S} (shown : Shows w m) :
    ∃ σ, Runs Tells (.start jobs m) σ ∧
      Shows (runAll rounds ((List.range n).map jobs) w).2 σ.shared ∧
      ∀ i a, (runAll rounds ((List.range n).map jobs) w).1[i]? = some (some a) →
        σ.job i = .done a := by
  obtain ⟨σ₁, one, lines₁⟩ := startAll_lines (σ := .start jobs m) shares 0
    ((List.range n).map jobs) w (fun k h => by simp [start]) shown
  obtain ⟨σ₂, two, lines₂⟩ := settle_lines shares (rounds * ((List.range n).map jobs).length) lines₁
  refine ⟨σ₂, one.runs.trans two, lines₂.shown, fun i a result => ?_⟩
  simp only [runAll, List.getElem?_map, Option.map_eq_some_iff] at result
  obtain ⟨i', at', result⟩ := result
  obtain ⟨inside, rfl⟩ := List.getElem?_eq_some_iff.mp at'
  rw [List.getElem_range] at result
  exact lines₂.job_eq_done result

end Thread

/-! ### Over a store -/

/-- A world shares its store with its jobs. -/
theorem Store.Memory.shares : World.Shares Memory.Tells fun w m => w.backend.store = m where
  reach _ shown := shown
  dial _ shown := shown
  perform {w _} e shown := ⟨_, shown ▸ w.tells_perform e, rfl⟩
  given m given := Reply.tells_given given m
  timedOut m e limit := e.tells_timedOut limit m
  woke _ := .woke
  read _ t := .read t

/-- **Jobs that a world runs side by side** take the steps of a run over its store. -/
theorem Thread.runAll_runs (rounds n : ℕ) (jobs : ℕ → Job α) (w : World) :
    ∃ σ, Pool.Runs Memory.Tells (.start jobs w.backend.store) σ ∧
      (runAll rounds ((List.range n).map jobs) w).2.backend.store = σ.shared ∧
      ∀ i a, (runAll rounds ((List.range n).map jobs) w).1[i]? = some (some a) →
        σ.job i = .done a :=
  runAll_reaches Memory.shares rounds n jobs rfl

/-! ### Over a store and a cache -/

namespace Premises

/-- What may be told to a job some time from now. -/
def TellsLater (p : Premises) (x : Event) (p' : Premises) : Prop :=
  ∃ d : Duration, ({ p with now := p.now + d.nanos } : Premises).Tells x p'

theorem Tells.now {p p' : Premises} {x : Event} (tells : p.Tells x p') : p.TellsLater x p' := ⟨⟨0⟩, tells⟩

/-- The store and the cache of a world, at its moment or before. -/
structure ShowIn (w : World) (p : Premises) : Prop where
  store : w.backend.store = p.store
  cache : w.backend.cache = p.cache
  moment : p.now ≤ w.clock.now

/-- A world shares its store, its cache and its clock with its jobs. -/
theorem shares : World.Shares TellsLater ShowIn where
  reach tick shown := ⟨shown.store, shown.cache, shown.moment.trans (Nat.le_add_right ..)⟩
  dial e shown := ⟨shown.store, shown.cache, shown.moment⟩
  perform {w p} e shown := by
    obtain ⟨store, cache, moment⟩ := shown
    obtain ⟨now, store', cache'⟩ := p
    subst store cache
    have later : (⟨w.clock.now - now⟩ : Duration).nanos = w.clock.now - now := rfl
    refine ⟨⟨w.clock.now, (w.perform e).2.backend.store, (w.perform e).2.backend.cache⟩,
      ⟨⟨w.clock.now - now⟩, ?_⟩, rfl, rfl, Nat.le_refl _⟩
    rw [later, Nat.add_sub_cancel' moment]
    cases e with
    | store c => exact .stored w.today c
    | cache c => exact .cached c
  given {mishap e r} p given := by
    refine Tells.now ?_
    -- Only a mishap of its own kind answers a call.
    rcases mishap with _ | (error | error | _ | _ | d) <;> rcases e with c | (id | ⟨u, ttl⟩) <;> cases given
    · exact .failed (.store c) error
    · exact .failed (.cache (.get id)) error
    · exact .failed (.cache (.set u ttl)) error
    · exact .missed id
  timedOut p e limit := Tells.now (.failed e _)
  woke p := Tells.now .woke
  read p t := Tells.now (.read t)

end Premises

/-- A run in which time passes between steps is a course. -/
theorem Pool.Runs.course [DecidableEq ι] {σ₀ σ : Pool Premises ι α}
    (run : Pool.Runs Premises.TellsLater σ₀ σ) : ∃ past, Course σ₀ past σ := by
  induction run with
  | refl => exact ⟨[], .start⟩
  | tail _ step ih =>
    obtain ⟨past, course⟩ := ih
    obtain ⟨i, move, d, tells⟩ := step
    exact ⟨_, (course.turned (.passes d)).told (.told i move tells)⟩

/-- **Jobs that a world runs side by side** take the steps of a course over its store and its cache. -/
theorem Thread.runAll_course (rounds n : ℕ) (jobs : ℕ → Job α) (w : World) :
    ∃ past σ, Course (.start jobs ⟨w.clock.now, w.backend.store, w.backend.cache⟩) past σ ∧
      Premises.ShowIn (runAll rounds ((List.range n).map jobs) w).2 σ.shared ∧
      ∀ i a, (runAll rounds ((List.range n).map jobs) w).1[i]? = some (some a) →
        σ.job i = .done a := by
  obtain ⟨σ, run, shown, results⟩ :=
    runAll_reaches Premises.shares rounds n jobs (w := w)
      (m := ⟨w.clock.now, w.backend.store, w.backend.cache⟩) ⟨rfl, rfl, Nat.le_refl _⟩
  obtain ⟨past, course⟩ := run.course
  exact ⟨past, σ, course, shown, results⟩

end Gatehouse
