import Gatehouse.Proofs.Job.Exact
import Gatehouse.Resolver

/-!
How often storage is asked, and when.

* `Store.Error.Passing`: the failures that may pass by themselves, one by one.
* `trial`, `begins`: what the n-th call of storage comes to, and when it is made.
* `Read`: what it means that the call with a number is the last one. `attempt_law` is by induction on the pauses
  between the calls, whatever they are; `retry_law` is the case of the resolver's own.
-/

namespace Gatehouse

/-! ### Failures -/

/-- A failure of storage that may pass by itself. -/
inductive Store.Error.Passing : Store.Error → Prop where
  | timeout (limit : Duration) : Passing (.timeout limit)
  | connectionLost (detail : String) : Passing (.database (.connectionLost detail))
  | poolTimedOut : Passing (.database .poolTimedOut)
  | workerCrashed : Passing (.database .workerCrashed)

theorem Store.Error.isTransient_iff {e : Store.Error} : e.isTransient = true ↔ e.Passing := by
  constructor
  · intro transient
    match e, transient with
    | .timeout limit, _ => exact .timeout limit
    | .database (.connectionLost detail), _ => exact .connectionLost detail
    | .database .poolTimedOut, _ => exact .poolTimedOut
    | .database .workerCrashed, _ => exact .workerCrashed
  · rintro (_ | _ | _ | _) <;> rfl

namespace Resolver

variable (r : Resolver) (id : Int64) (s : Setting)

/-! ### Trials -/

/-- What the n-th call of storage comes to, and how long that takes: its answer, if it comes within the time that
is allowed, and otherwise that time is over. -/
def trial (n : Nat) : Duration × Except Store.Error User :=
  match s.storage n (.userById id) with
  | .answer d x =>
    if d.nanos ≤ r.storageTimeout.nanos then (d, x) else (r.storageTimeout, .error (.timeout r.storageTimeout))
  | .silence => (r.storageTimeout, .error (.timeout r.storageTimeout))

/-- Whether another call may follow on what a call came to. -/
def Retried (x : Except Store.Error User) : Prop := ∃ e, x = .error e ∧ e.Passing

theorem met_eq_trial : (s.fate (.store (.userById id))).met r.storageTimeout = r.trial id s 0 := by
  show (s.storage 0 (.userById id)).met r.storageTimeout = _
  unfold trial
  cases s.storage 0 (.userById id) <;> rfl

theorem trial_le (n : Nat) : (r.trial id s n).1.nanos ≤ r.storageTimeout.nanos := by
  unfold trial
  split
  · split
    · assumption
    · exact Nat.le_refl _
  · exact Nat.le_refl _

/-- The moment of the n-th call, if there is one: each one comes when the one before has ended, and its pause
after it is over. -/
def begins : List Duration → Nat → Nat
  | _, 0 => s.now
  | ps, n + 1 => begins ps n + (r.trial id s n).1.nanos + (ps.getD n ⟨0⟩).nanos

/-- The moment at which the n-th call has ended. -/
def ends (ps : List Duration) (n : Nat) : Nat := r.begins id s ps n + (r.trial id s n).1.nanos

/-- The stage of the n-th call. -/
def asked (ps : List Duration) (n : Nat) : Stage :=
  ⟨.answered (.store (.userById id)) (r.trial id s n).2, r.begins id s ps n, r.ends id s ps n⟩

/-- The stage of the pause after it. -/
def waited (ps : List Duration) (n : Nat) : Stage := ⟨.woke, r.ends id s ps n, r.begins id s ps (n + 1)⟩

/-- The longest time that reading storage takes: every call takes all that is allowed, and every pause is made. -/
def budget : List Duration → Nat
  | [] => r.storageTimeout.nanos
  | p :: ps => r.storageTimeout.nanos + p.nanos + budget ps

/-- The setting after the first call has come to its end, and a pause. -/
def afterFirst (p : Duration) : Setting :=
  ((s.dialled (.store (.userById id))).later (r.trial id s 0).1).later p

variable {r id s} {p : Duration} {ps : List Duration}

theorem storageTimeout_le_budget : r.storageTimeout.nanos ≤ r.budget ps := by
  cases ps with
  | nil => exact Nat.le_refl _
  | cons p ps => exact Nat.le_trans (Nat.le_add_right ..) (Nat.le_add_right ..)

theorem budget_pauses : r.budget pauses = 3 * r.storageTimeout.nanos + 150000000 := by
  have first : (Duration.ofMillis 50).nanos = 50000000 := rfl
  have second : (Duration.ofMillis 100).nanos = 100000000 := rfl
  simp only [pauses, budget, first, second]
  omega

/-- Nothing else is retried. -/
theorem Retried.not_lasting {x : Except Store.Error User} (retried : Retried x) :
    (∀ u, x ≠ .ok u) ∧ x ≠ .error .notFound ∧ (∀ what, x ≠ .error (.conflict what)) ∧
      ∀ cause, x = .error (.database cause) → cause.isTransient = true := by
  obtain ⟨e, rfl, passing⟩ := retried
  refine ⟨?_, ?_, ?_, ?_⟩
  · rintro u ⟨⟩
  · rintro ⟨⟩
    cases passing
  · rintro what ⟨⟩
    cases passing
  · rintro cause ⟨⟩
    exact Store.Error.isTransient_iff.mpr passing

theorem trial_afterFirst (n : Nat) : r.trial id (r.afterFirst id s p) n = r.trial id s (n + 1) := rfl

theorem begins_afterFirst (n : Nat) :
    r.begins id (r.afterFirst id s p) ps n = r.begins id s (p :: ps) (n + 1) := by
  induction n with
  | zero => rfl
  | succ n ih =>
    show r.begins id (r.afterFirst id s p) ps n + _ + _ = r.begins id s (p :: ps) (n + 1) + _ + _
    rw [ih, trial_afterFirst, List.getD_cons_succ]

theorem asked_afterFirst (n : Nat) :
    r.asked id (r.afterFirst id s p) ps n = r.asked id s (p :: ps) (n + 1) := by
  simp only [asked, ends, begins_afterFirst, trial_afterFirst]

theorem waited_afterFirst (n : Nat) :
    r.waited id (r.afterFirst id s p) ps n = r.waited id s (p :: ps) (n + 1) := by
  simp only [waited, ends, begins_afterFirst, trial_afterFirst]

/-! ### Reading storage -/

/-- Storage has been read: the call numbered `last` is the last one. -/
structure Read (r : Resolver) (id : Int64) (s : Setting) (ps : List Duration) (last : Nat)
    (m : Encounter (Except Store.Error User)) : Prop where
  bounded : last ≤ ps.length
  retried : ∀ n < last, Retried (r.trial id s n).2
  final : last < ps.length → ¬ Retried (r.trial id s last).2
  result : m.result = some (r.trial id s last).2
  stages : m.stages = (List.range last).flatMap (fun n => [r.asked id s ps n, r.waited id s ps n]) ++
    [r.asked id s ps last]
  elapsed : r.ends id s ps last ≤ s.now + r.budget ps
  left : m.left = { s with storage := fun n => s.storage (n + (last + 1)), now := r.ends id s ps last }

/-- A call that is not followed by another one. -/
theorem read_once (final : ps ≠ [] → ¬ Retried (r.trial id s 0).2)
    {m : Encounter (Except Store.Error User)}
    (ends : m = ⟨some (r.trial id s 0).2, [r.asked id s ps 0],
      (s.dialled (.store (.userById id))).later (r.trial id s 0).1⟩) : Read r id s ps 0 m := by
  subst ends
  have inTime : (r.trial id s 0).1.nanos ≤ r.budget ps := Nat.le_trans (r.trial_le id s 0) storageTimeout_le_budget
  exact ⟨Nat.zero_le _, nofun, fun more => final (List.ne_nil_of_length_pos more), rfl, rfl,
    Nat.add_le_add_left inTime s.now, rfl⟩

/-- One more call before the others. -/
theorem Read.cons (retried : Retried (r.trial id s 0).2) {last : Nat} {m : Encounter (Except Store.Error User)}
    (read : Read r id (r.afterFirst id s p) ps last m) :
    Read r id s (p :: ps) (last + 1)
      (m.after [r.asked id s (p :: ps) 0, r.waited id s (p :: ps) 0]) where
  bounded := Nat.succ_le_succ read.bounded
  retried n earlier := by
    cases n with
    | zero => exact retried
    | succ n => exact read.retried n (Nat.lt_of_succ_lt_succ earlier)
  final more := read.final (Nat.lt_of_succ_lt_succ more)
  result := read.result
  stages := by
    simp only [Encounter.after, read.stages, asked_afterFirst, waited_afterFirst, List.range_succ_eq_map,
      List.flatMap_cons, List.flatMap_map, List.append_assoc]
  elapsed := by
    have rest := read.elapsed
    rw [ends, begins_afterFirst, trial_afterFirst] at rest
    have first := r.trial_le id s 0
    have starts : (r.afterFirst id s p).now = s.now + (r.trial id s 0).1.nanos + p.nanos := rfl
    have budget : r.budget (p :: ps) = r.storageTimeout.nanos + p.nanos + r.budget ps := rfl
    rw [ends]
    omega
  left := by
    rw [Encounter.after, read.left, ends, begins_afterFirst, trial_afterFirst]
    rfl

/-- A call that is the last one that is allowed. -/
theorem attempt_nil_meet (s : Setting) : (r.attempt id []).meet s = ⟨some (r.trial id s 0).2,
    [r.asked id s ps 0], (s.dialled (.store (.userById id))).later (r.trial id s 0).1⟩ := by
  simp only [attempt, Job.meet, Fate.within, met_eq_trial]
  rfl

/-- A call after which there is nothing to hope for. -/
theorem attempt_cons_meet_final (final : ¬ Retried (r.trial id s 0).2) :
    (r.attempt id (p :: ps)).meet s = ⟨some (r.trial id s 0).2,
      [r.asked id s (p :: ps) 0], (s.dialled (.store (.userById id))).later (r.trial id s 0).1⟩ := by
  simp only [attempt, Job.meet, Fate.within, met_eq_trial, asked, ends, begins]
  cases outcome : (r.trial id s 0).2 with
  | ok u => rfl
  | error e =>
    have lasting : ¬ e.isTransient = true := fun transient =>
      final ⟨e, outcome, Store.Error.isTransient_iff.mp transient⟩
    simp only [if_neg lasting]
    rfl

/-- A call after which another one is made. -/
theorem attempt_cons_meet_retried (retried : Retried (r.trial id s 0).2) :
    (r.attempt id (p :: ps)).meet s = ((r.attempt id ps).meet (r.afterFirst id s p)).after
      [r.asked id s (p :: ps) 0, r.waited id s (p :: ps) 0] := by
  obtain ⟨e, outcome, passing⟩ := retried
  simp only [attempt, Job.meet, Fate.within, met_eq_trial, asked, ends, begins, outcome,
    if_pos (Store.Error.isTransient_iff.mpr passing)]
  rfl

/-- **Reading storage with any pauses** comes to an end. -/
theorem attempt_law (ps : List Duration) (s : Setting) :
    ∃ last, Read r id s ps last ((r.attempt id ps).meet s) := by
  induction ps generalizing s with
  | nil => exact ⟨0, read_once (fun more => absurd rfl more) (attempt_nil_meet s)⟩
  | cons p ps ih =>
    by_cases retried : Retried (r.trial id s 0).2
    · obtain ⟨last, read⟩ := ih (r.afterFirst id s p)
      rw [attempt_cons_meet_retried retried]
      exact ⟨last + 1, read.cons retried⟩
    · exact ⟨0, read_once (fun _ => retried) (attempt_cons_meet_final retried)⟩

/-- Whatever storage does, the ends of all spans can be told, if there is room for the longest time. -/
theorem attempt_tellable {now : Nat} (room : now + r.budget ps ≤ Clock.horizon) :
    (r.attempt id ps).Tellable now := by
  induction ps generalizing now with
  | nil => exact ⟨room, fun x => trivial⟩
  | cons p ps ih =>
    have budget : r.budget (p :: ps) = r.storageTimeout.nanos + p.nanos + r.budget ps := rfl
    refine ⟨by omega, fun x => ?_⟩
    cases x with
    | ok u => trivial
    | error e =>
      show Job.Tellable (if e.isTransient then _ else _) _
      split
      · exact ⟨by omega, ih (by omega)⟩
      · trivial

/-- **The retry law.** -/
theorem retry_law (r : Resolver) (id : Int64) :
    -- Whatever storage does, and whenever its calls are answered, if ever:
    (∀ s : Setting,
      let m := (r.load id).meet s
      ∃ last ≤ 2,
        -- There are calls up to the one numbered `last`. Each one begins when the one before has ended and the pause
        -- after that is over, and nothing else is called.
        m.stages = (List.range last).flatMap (fun n => [r.asked id s pauses n, r.waited id s pauses n]) ++
          [r.asked id s pauses last] ∧
        r.begins id s pauses 0 = s.now ∧
        r.begins id s pauses 1 = r.ends id s pauses 0 + 50000000 ∧
        r.begins id s pauses 2 = r.ends id s pauses 1 + 100000000 ∧
        m.left = { s with storage := fun n => s.storage (n + (last + 1)), now := r.ends id s pauses last } ∧
        -- The result is what the last call comes to. All calls before have failed in a way that may pass, and
        -- so has the last one only if it is the third.
        m.result = some (r.trial id s last).2 ∧
        (∀ n < last, Retried (r.trial id s n).2) ∧
        (last < 2 → ¬ Retried (r.trial id s last).2) ∧
        -- So no other failure is ever retried.
        (∀ n < last, (∀ u, (r.trial id s n).2 ≠ .ok u) ∧ (r.trial id s n).2 ≠ .error .notFound ∧
          (∀ what, (r.trial id s n).2 ≠ .error (.conflict what)) ∧
          ∀ cause, (r.trial id s n).2 = .error (.database cause) → cause.isTransient = true) ∧
        -- All of it takes no longer than the calls may take, and the pauses.
        m.left.now ≤ s.now + 3 * r.storageTimeout.nanos + 150000000) ∧
    -- So it is in every world whose timers are exact, as long as the clock can tell their ends.
    ∀ w : World, w.clock.grain = 1 →
      w.clock.now + 3 * r.storageTimeout.nanos + 150000000 ≤ Clock.horizon →
      ∃ s : Setting, s.now = w.clock.now ∧ ((r.load id).meet s).result = ((r.load id).run none w).1 ∧
        ((r.load id).meet s).left.now = ((r.load id).run none w).2.clock.now := by
  refine ⟨fun s => ?_, fun w exact room => ?_⟩
  · obtain ⟨last, read⟩ : ∃ last, Read r id s pauses last ((r.load id).meet s) := attempt_law pauses s
    have elapsed := read.elapsed
    rw [budget_pauses, ← Nat.add_assoc] at elapsed
    refine ⟨last, read.bounded, read.stages, rfl, rfl, rfl, read.left, read.result, read.retried, read.final, ?_, ?_⟩
    · intro n earlier
      exact (read.retried n earlier).not_lasting
    · rw [read.left]
      exact elapsed
  · refine Job.fares_run _ w exact (attempt_tellable ?_)
    rw [budget_pauses, ← Nat.add_assoc]
    exact room

/-- Storage does not answer the first call, and the second one at the last moment; and a world in which nothing
befalls the calls. -/
theorem retry_law_second :
    let u : User := ⟨1, "ada", "ada@example.com", ⟨1, "user", "", 1⟩, true, default⟩
    let s : Setting := { (default : Setting) with
      storage := fun
        | 1, .userById _ => .answer (.ofSecs 10) (.ok u)
        | _, _ => .silence }
    let w : World := ⟨⟨0, 1, by decide⟩, fun _ => default, default⟩
    ((plain.load 1).meet s).result = some (.ok u) ∧ ((plain.load 1).meet s).left.now = 20050000000 ∧
      w.clock.grain = 1 ∧ w.clock.now + 3 * plain.storageTimeout.nanos + 150000000 ≤ Clock.horizon ∧
      ∃ s', s'.now = 0 ∧ ((plain.load 1).meet s').result = ((plain.load 1).run none w).1 := by
  intro u s w
  have room : w.clock.now + 3 * plain.storageTimeout.nanos + 150000000 ≤ Clock.horizon := by decide
  have late : Retried (plain.trial 1 s 0).2 := ⟨_, rfl, .timeout _⟩
  have answered : (plain.trial 1 s 1).2 = .ok u := rfl
  obtain ⟨last, bounded, -, starts, pause, -, left, result, retried, final, -⟩ := (retry_law plain 1).1 s
  have second : last = 1 := by
    have notFirst : last ≠ 0 := by
      rintro rfl
      exact final (by decide) late
    have notThird : ¬ 1 < last := by
      intro more
      obtain ⟨e, failed, -⟩ := retried 1 more
      cases answered.symm.trans failed
    omega
  subst second
  have moment : plain.ends 1 s pauses 1 = 20050000000 := by
    have ten : (Duration.ofSecs 10).nanos = 10000000000 := by decide
    have first : plain.ends 1 s pauses 0 = plain.begins 1 s pauses 0 + (Duration.ofSecs 10).nanos := rfl
    have again : plain.ends 1 s pauses 1 = plain.begins 1 s pauses 1 + (Duration.ofSecs 10).nanos := rfl
    have zero : s.now = 0 := rfl
    omega
  obtain ⟨s', now, same, -⟩ := (retry_law plain 1).2 w rfl room
  exact ⟨result.trans (congrArg some answered), (congrArg Setting.now left).trans moment, rfl, room, s', now, same⟩

end Resolver

end Gatehouse
