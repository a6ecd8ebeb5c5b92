import Gatehouse.Limiter
import Gatehouse.Proofs.Table

/-!
Clients that share a limiter do not notice each other, and nobody notices that it is swept.

A window that has ended counts as much as none, so two limiters with the same open windows of a client
decide alike on that client from then on (`Alike`). What other clients do and what sweeping forgets
leaves its open windows as they are.

* `openWindow_later`, `openWindow_sweep`: a window that has ended stays ended, and a sweep takes no
  open window away.
* `run_alike`: limiters that are alike for a client decide alike on it to the end of a run, if one of
  them sees all that happens and the other one sees that client alone.
* `clients_separate`: so a client is treated as if it were alone with a new limiter that is never
  swept, and a sweep leaves exactly the clients whose windows are open.
-/

namespace Gatehouse.Limiter

/-! ### Runs -/

/-- What happens to a limiter: a client asks to be admitted, or it is swept. -/
inductive Happening where
  | ask (client : String)
  | sweep
deriving DecidableEq

/-- Something that happens, and the moment that is then read from the clock. -/
structure Moment where
  now : Nat
  what : Happening

/-- Whether a client asks to be admitted. -/
def Moment.isOf (client : String) (x : Moment) : Bool := x.what = .ask client

/-- The decisions on all that ask, each with the client that it is for, and the limiter after that. -/
def run : Limiter → List Moment → List (String × Decision) × Limiter
  | l, [] => ([], l)
  | l, ⟨now, .ask client⟩ :: xs =>
    let (d, l) := l.check now client
    let (ds, l) := run l xs
    ((client, d) :: ds, l)
  | l, ⟨now, .sweep⟩ :: xs => run (l.sweep now) xs

/-- The decisions that are for a client, in their order. -/
def decisionsFor (client : String) (ds : List (String × Decision)) : List Decision :=
  (ds.filter fun d => d.1 = client).map Prod.snd

/-- What happens when a client is alone and nobody sweeps. -/
def alone (client : String) (xs : List Moment) : List Moment := xs.filter (Moment.isOf client)

/-! ### Open windows -/

/-- Whether a window has not ended at a moment. -/
def Window.isOpen (length : Duration) (now : Nat) (w : Window) : Bool :=
  now - w.started < length.nanos

/-- The window of a client, if it has not ended. -/
def openWindow (l : Limiter) (now : Nat) (client : String) : Option Window :=
  (l.windows.find? client).filter (Window.isOpen l.window now)

/-- A window that has ended counts as much as none. -/
theorem Window.current_eq (length : Duration) (now : Nat) (w : Option Window) :
    Window.current length now w = (w.filter (Window.isOpen length now)).getD ⟨now, 0⟩ := by
  cases w with
  | none => rfl
  | some w =>
    by_cases ended : now - w.started ≥ length.nanos
    · have notOpen : ¬ now - w.started < length.nanos := by omega
      simp [Window.current, Option.filter, Window.isOpen, ended, notOpen]
    · have going : now - w.started < length.nanos := by omega
      simp [Window.current, Option.filter, Window.isOpen, ended, going]

theorem Window.isOpen_of_later {length : Duration} {now next : Nat} (le : now ≤ next) {w : Window}
    (isOpen : Window.isOpen length next w = true) : Window.isOpen length now w = true := by
  simp only [Window.isOpen, decide_eq_true_eq] at isOpen ⊢
  omega

variable {l l' : Limiter} {now next : Nat} {client other : String}

/-- **A window that has ended stays ended.** -/
theorem openWindow_later (l : Limiter) (le : now ≤ next) (client : String) :
    l.openWindow next client = (l.openWindow now client).filter (Window.isOpen l.window next) := by
  unfold openWindow
  cases l.windows.find? client with
  | none => rfl
  | some w =>
    by_cases isOpen : Window.isOpen l.window next w = true
    · simp [Option.filter, isOpen, Window.isOpen_of_later le isOpen]
    · by_cases before : Window.isOpen l.window now w = true <;> simp [Option.filter, isOpen, before]

/-- After a sweep, exactly the open windows are remembered. -/
theorem find?_sweep (apart : l.windows.Apart) (now : Nat) (client : String) :
    (l.sweep now).windows.find? client = l.openWindow now client :=
  apart.find?_filter _ client

/-- **A sweep takes no open window away.** -/
theorem openWindow_sweep (apart : l.windows.Apart) (now : Nat) (client : String) :
    (l.sweep now).openWindow now client = l.openWindow now client := by
  rw [openWindow, find?_sweep apart]
  exact (openWindow_later l (Nat.le_refl now) client).symm

/-- A decision depends on the open window of the client alone. -/
theorem check_fst (l : Limiter) (now : Nat) (client : String) :
    (l.check now client).1 =
      (((l.openWindow now client).getD ⟨now, 0⟩).serve l.limit l.window now).1 := by
  rw [openWindow, ← Window.current_eq]
  rfl

theorem find?_check_self (l : Limiter) (now : Nat) (client : String) :
    (l.check now client).2.windows.find? client =
      some (((l.openWindow now client).getD ⟨now, 0⟩).serve l.limit l.window now).2 := by
  rw [openWindow, ← Window.current_eq]
  exact Table.find?_insert_self ..

/-- Who asks changes nobody else's window. -/
theorem find?_check_other (l : Limiter) (now : Nat) (differ : other ≠ client) :
    (l.check now other).2.windows.find? client = l.windows.find? client :=
  Table.find?_insert_of_ne differ ..

theorem apart_check (apart : l.windows.Apart) (now : Nat) (client : String) :
    (l.check now client).2.windows.Apart :=
  apart.insert _ _

theorem apart_run (apart : l.windows.Apart) (xs : List Moment) : (l.run xs).2.windows.Apart := by
  induction xs generalizing l with
  | nil => exact apart
  | cons x xs ih =>
    obtain ⟨now, what⟩ := x
    cases what with
    | ask client => exact ih (apart_check apart now client)
    | sweep => exact ih (apart.filter _)

theorem run_window (l : Limiter) (xs : List Moment) : (l.run xs).2.window = l.window := by
  induction xs generalizing l with
  | nil => rfl
  | cons x xs ih =>
    obtain ⟨now, what⟩ := x
    cases what with
    | ask client => exact ih (l.check now client).2
    | sweep => exact ih (l.sweep now)

theorem run_concat_sweep (l : Limiter) (xs : List Moment) (now : Nat) :
    (l.run (xs ++ [⟨now, .sweep⟩])).2 = (l.run xs).2.sweep now := by
  induction xs generalizing l with
  | nil => rfl
  | cons x xs ih =>
    obtain ⟨moment, what⟩ := x
    cases what with
    | ask client => exact ih (l.check moment client).2
    | sweep => exact ih (l.sweep moment)

/-! ### Limiters that are alike -/

/-- From a moment on, two limiters decide alike on a client: they have the same rules, and the same
open window of that client. -/
structure Alike (client : String) (now : Nat) (l l' : Limiter) : Prop where
  limit : l.limit = l'.limit
  window : l.window = l'.window
  sees : l.openWindow now client = l'.openWindow now client

theorem Alike.refl (client : String) (now : Nat) (l : Limiter) : Alike client now l l := ⟨rfl, rfl, rfl⟩

theorem Alike.later (alike : Alike client now l l') (le : now ≤ next) : Alike client next l l' := by
  refine ⟨alike.limit, alike.window, ?_⟩
  rw [openWindow_later l le, openWindow_later l' le, alike.sees, alike.window]

/-- The client itself is answered alike, and the limiters stay alike. -/
theorem Alike.check (alike : Alike client now l l') :
    (l.check now client).1 = (l'.check now client).1 ∧
      Alike client now (l.check now client).2 (l'.check now client).2 := by
  refine ⟨?_, alike.limit, alike.window, ?_⟩
  · rw [check_fst, check_fst, alike.sees, alike.limit, alike.window]
  · show ((l.check now client).2.windows.find? client).filter (Window.isOpen l.window now) =
      ((l'.check now client).2.windows.find? client).filter (Window.isOpen l'.window now)
    rw [find?_check_self, find?_check_self, alike.sees, alike.limit, alike.window]

/-- What another client does is not noticed. -/
theorem Alike.check_other (alike : Alike client now l l') (differ : other ≠ client) :
    Alike client now (l.check now other).2 l' := by
  refine ⟨alike.limit, alike.window, Eq.trans ?_ alike.sees⟩
  show ((l.check now other).2.windows.find? client).filter (Window.isOpen l.window now) = _
  rw [find?_check_other l now differ]
  rfl

/-- That one of them is swept is not noticed. -/
theorem Alike.sweep (alike : Alike client now l l') (apart : l.windows.Apart) :
    Alike client now (l.sweep now) l' :=
  ⟨alike.limit, alike.window, (openWindow_sweep apart now client).trans alike.sees⟩

/-! ### Runs that are alike -/

theorem alone_cons_self (client : String) (now : Nat) (xs : List Moment) :
    alone client (⟨now, .ask client⟩ :: xs) = ⟨now, .ask client⟩ :: alone client xs := by
  simp [alone, Moment.isOf]

theorem alone_cons_other {what : Happening} (differ : what ≠ .ask client) (now : Nat)
    (xs : List Moment) : alone client (⟨now, what⟩ :: xs) = alone client xs := by
  simp [alone, Moment.isOf, differ]

/-- **A limiter that sees all that happens decides on a client like one that sees that client alone**,
if they are alike at the start, and stays alike. -/
theorem run_alike {xs : List Moment} (ordered : xs.Pairwise fun x y => x.now ≤ y.now)
    (alike : Alike client now l l') (apart : l.windows.Apart) (start : ∀ x ∈ xs, now ≤ x.now) :
    decisionsFor client (l.run xs).1 = decisionsFor client (l'.run (alone client xs)).1 ∧
      ∀ next, now ≤ next → (∀ x ∈ xs, x.now ≤ next) →
        Alike client next (l.run xs).2 (l'.run (alone client xs)).2 := by
  induction xs generalizing l l' now with
  | nil => exact ⟨rfl, fun next le _ => alike.later le⟩
  | cons x xs ih =>
    obtain ⟨first, tail⟩ := List.pairwise_cons.mp ordered
    have here := alike.later (start x (.head _))
    obtain ⟨moment, what⟩ := x
    -- Whatever is left of the run goes on from the moment of its first step.
    have ends {out out' : Limiter} (after : ∀ next, moment ≤ next → (∀ x ∈ xs, x.now ≤ next) →
        Alike client next out out') : ∀ next, now ≤ next →
        (∀ x ∈ ⟨moment, what⟩ :: xs, x.now ≤ next) → Alike client next out out' :=
      fun next _ done => after next (done _ (.head _)) fun x mem => done x (.tail _ mem)
    cases what with
    | sweep =>
      rw [alone_cons_other (by simp)]
      obtain ⟨decisions, after⟩ := ih tail (here.sweep apart) (apart.filter _) first
      exact ⟨decisions, ends after⟩
    | ask asking =>
      by_cases same : asking = client
      · subst same
        obtain ⟨decision, here⟩ := here.check
        obtain ⟨decisions, after⟩ := ih tail here (apart_check apart moment asking) first
        rw [alone_cons_self]
        refine ⟨?_, ends after⟩
        simp only [run, decisionsFor, List.filter_cons, decide_true, if_true, List.map_cons, decision]
        exact congrArg _ decisions
      · rw [alone_cons_other (by simpa using same)]
        obtain ⟨decisions, after⟩ := ih tail (here.check_other same)
          (apart_check apart moment asking) first
        refine ⟨?_, ends after⟩
        simp only [run, decisionsFor, List.filter_cons, same, decide_false, Bool.false_eq_true, if_false]
        exact decisions

/-- **Clients do not interfere, and sweeping is not noticed.** Take a new limiter with any limit and
any length of windows, and whatever happens to it at moments that never go back. -/
theorem clients_separate (limit : Nat) (window : Duration) {xs : List Moment}
    (ordered : xs.Pairwise fun x y => x.now ≤ y.now) :
    -- Each client gets the decisions that it gets alone, from a limiter that is never swept.
    (∀ client, decisionsFor client ((new limit window).run xs).1 =
      decisionsFor client ((new limit window).run (alone client xs)).1) ∧
    -- Right after a sweep, exactly the clients are remembered whose windows are open, each once.
    ∀ before now, xs = before ++ [⟨now, .sweep⟩] →
      ((new limit window).run xs).2.windows.keys.Nodup ∧
      ((new limit window).run xs).2.windows.keys.length = ((new limit window).run xs).2.tracked ∧
      ∀ client, client ∈ ((new limit window).run xs).2.windows.keys ↔
        ∃ w, ((new limit window).run (alone client xs)).2.windows.find? client = some w ∧
          now - w.started < window.nanos := by
  have apart : (new limit window).windows.Apart := Table.apart_empty
  have alike {ys : List Moment} (client : String) (ordered : ys.Pairwise fun x y => x.now ≤ y.now) :=
    run_alike ordered (.refl client 0 (new limit window)) apart fun _ _ => Nat.zero_le _
  refine ⟨fun client => (alike client ordered).1, ?_⟩
  rintro before now rfl
  obtain ⟨ordered, -, done⟩ := List.pairwise_append.mp ordered
  have swept := run_concat_sweep (new limit window) before now
  have apartBefore := apart_run apart before
  refine ⟨?_, Table.length_keys _, fun client => ?_⟩
  · rw [swept]
    exact apartBefore.filter _
  have unswept : alone client (before ++ [⟨now, .sweep⟩]) = alone client before := by
    simp [alone, Moment.isOf]
  have sees := ((alike client ordered).2 now (Nat.zero_le now) fun x mem => done x mem _ (.head _)).sees
  rw [swept, unswept, Table.mem_keys_iff, find?_sweep apartBefore, sees]
  simp only [openWindow, Option.filter_eq_some_iff, run_window, Window.isOpen, decide_eq_true_eq]
  rfl

/-- A window is forgotten by the sweep at its end, and the client is then let in as before. -/
theorem clients_separate_swept :
    let xs : List Moment := [⟨0, .ask "a"⟩, ⟨1, .ask "b"⟩, ⟨4, .ask "a"⟩, ⟨5, .sweep⟩, ⟨5, .ask "a"⟩]
    xs.Pairwise (fun x y => x.now ≤ y.now) ∧
      decisionsFor "a" ((new 1 ⟨5⟩).run xs).1 = [.allowed, .limited ⟨1⟩, .allowed] := by
  intro xs
  have ordered : xs.Pairwise fun x y => x.now ≤ y.now := by decide
  refine ⟨ordered, ?_⟩
  rw [(clients_separate 1 ⟨5⟩ ordered).1 "a"]
  decide

end Gatehouse.Limiter
