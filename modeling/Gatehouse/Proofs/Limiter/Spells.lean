import Mathlib.Data.List.Induction
import Gatehouse.Proofs.Limiter.Separation
import Gatehouse.Proofs.Log

/-!
The requests of one client, as a limiter counts them.

They fall into spells: those that count in one window make up one spell. Each request brings the moment
that it has read from the clock, and it may be overtaken by requests that have read a later one.

* `visitsOf_history`: the spells hold all requests, with the decisions that the limiter gives.
* `decisionsFor_run`: the decisions on a client depend on the moments of its requests alone.
* `Follows`: what the spells of a client say about each other and about the window that a limiter has
  stored. `Follows.attend` is one more request, `history_follows` any number of them.
* `history_timely`: while the clock does not go back, a request counts in a window that is open at the
  moment that it has read.
-/

namespace Gatehouse.Limiter

/-! ### Spells -/

/-- A request of a client: the moment that it has read from the clock, and the decision on it. -/
structure Visit where
  now : Nat
  decision : Decision
deriving DecidableEq

/-- Whether a request is let in. -/
def Visit.admitted (v : Visit) : Bool := v.decision = .allowed

/-- A window of a client, and the requests that have counted in it, first one first. -/
structure Spell where
  started : Nat
  visits : List Visit
deriving DecidableEq

namespace Spell

/-- The number of requests that a window has let in. -/
def admitted (s : Spell) : Nat := s.visits.countP Visit.admitted

/-- The window of a spell, as it is stored. -/
def window (s : Spell) : Window := ⟨s.started, s.admitted⟩

/-- A spell with one more request. -/
def add (s : Spell) (v : Visit) : Spell := { s with visits := s.visits ++ [v] }

end Spell

/-- The spell in which a request counts, and the spells before it. All spells stand last one first. -/
def currentSpell (l : Limiter) (client : String) (now : Nat) : List Spell → Spell × List Spell
  | [] => (⟨now, []⟩, [])
  | s :: earlier => if (l.openWindow now client).isSome then (s, earlier) else (⟨now, []⟩, s :: earlier)

/-- One more request of a client. -/
def attend (client : String) (h : List Spell × Limiter) (now : Nat) : List Spell × Limiter :=
  let (s, earlier) := currentSpell h.2 client now h.1
  (s.add ⟨now, (h.2.check now client).1⟩ :: earlier, (h.2.check now client).2)

/-- The spells of a client that asks at the given moments, and the limiter after that. -/
def history (l : Limiter) (client : String) (readings : List Nat) : List Spell × Limiter :=
  readings.foldl (attend client) ([], l)

/-- The requests of all spells, first one first. -/
def visitsOf (spells : List Spell) : List Visit := spells.reverse.flatMap Spell.visits

/-- What happens when one client asks at the given moments. -/
def asks (client : String) (readings : List Nat) : List Moment := readings.map fun now => ⟨now, .ask client⟩

variable {l : Limiter} {client : String} {spells : List Spell} {now : Nat}

theorem history_concat (l : Limiter) (client : String) (readings : List Nat) (now : Nat) :
    l.history client (readings ++ [now]) = attend client (l.history client readings) now := by
  simp only [history, List.foldl_append, List.foldl_cons, List.foldl_nil]

theorem check_window (l : Limiter) (now : Nat) (client : String) : (l.check now client).2.window = l.window := rfl

theorem history_rules (l : Limiter) (client : String) (readings : List Nat) :
    (l.history client readings).2.limit = l.limit ∧ (l.history client readings).2.window = l.window := by
  induction readings using List.reverseRecOn with
  | nil => exact ⟨rfl, rfl⟩
  | append_singleton readings now ih =>
    rw [history_concat]
    exact ih

/-- The request is put behind all others. -/
theorem visitsOf_attend (spells : List Spell) (l : Limiter) (client : String) (now : Nat) :
    visitsOf (attend client (spells, l) now).1 = visitsOf spells ++ [⟨now, (l.check now client).1⟩] := by
  cases spells with
  | nil => rfl
  | cons s earlier =>
    simp only [attend, currentSpell]
    split <;> simp [visitsOf, Spell.add]

theorem run_cons_ask (l : Limiter) (client : String) (now : Nat) (readings : List Nat) :
    l.run (asks client (now :: readings)) =
      ((client, (l.check now client).1) :: ((l.check now client).2.run (asks client readings)).1,
        ((l.check now client).2.run (asks client readings)).2) := rfl

theorem run_concat_ask (l : Limiter) (client : String) (readings : List Nat) (now : Nat) :
    l.run (asks client (readings ++ [now])) =
      ((l.run (asks client readings)).1 ++
          [(client, ((l.run (asks client readings)).2.check now client).1)],
        ((l.run (asks client readings)).2.check now client).2) := by
  induction readings generalizing l with
  | nil => rfl
  | cons first readings ih => rw [List.cons_append, run_cons_ask, ih, run_cons_ask, List.cons_append]

/-- **The spells hold all requests in their order**, each with the decision that the limiter gives. -/
theorem visitsOf_history (l : Limiter) (client : String) (readings : List Nat) :
    (visitsOf (l.history client readings).1).map Visit.now = readings ∧
      l.run (asks client readings) =
        ((visitsOf (l.history client readings).1).map fun v => (client, v.decision),
          (l.history client readings).2) := by
  induction readings using List.reverseRecOn with
  | nil => exact ⟨rfl, rfl⟩
  | append_singleton readings now ih =>
    obtain ⟨moments, decisions⟩ := ih
    rw [run_concat_ask, history_concat, visitsOf_attend, decisions]
    constructor
    · simp [moments]
    · simp [attend]

/-! ### What the decisions depend on -/

/-- The decisions on a client that asks at the given moments, from the window that is stored for it. -/
def verdicts (limit : Nat) (length : Duration) : Option Window → List Nat → List Decision
  | _, [] => []
  | w, now :: readings =>
    ((Window.current length now w).serve limit length now).1 ::
      verdicts limit length (some ((Window.current length now w).serve limit length now).2) readings

theorem decisionsFor_asks (l : Limiter) (client : String) (readings : List Nat) :
    decisionsFor client (l.run (asks client readings)).1 =
      verdicts l.limit l.window (l.windows.find? client) readings := by
  induction readings generalizing l with
  | nil => rfl
  | cons now readings ih =>
    have stored : (l.check now client).2.windows.find? client =
        some ((Window.current l.window now (l.windows.find? client)).serve l.limit l.window now).2 :=
      Table.find?_insert_self ..
    have rest := ih (l.check now client).2
    rw [stored] at rest
    rw [run_cons_ask, verdicts]
    simp only [decisionsFor, List.filter_cons, decide_true, if_true, List.map_cons]
    exact congrArg _ rest

/-- A client that is alone does nothing but ask. -/
theorem alone_eq_asks (client : String) (xs : List Moment) :
    alone client xs = asks client ((alone client xs).map Moment.now) := by
  rw [asks, List.map_map]
  refine (List.map_id _).symm.trans (List.map_congr_left fun x mem => ?_)
  have asks : x.what = .ask client := of_decide_eq_true (List.mem_filter.mp mem).2
  rw [Function.comp_apply, ← asks]
  rfl

/-- **The decisions on a client depend on the moments at which it asks**, and on nothing else that happens. -/
theorem decisionsFor_run {l : Limiter} {xs : List Moment} (ordered : xs.Pairwise fun x y => x.now ≤ y.now)
    (apart : l.windows.Apart) (client : String) :
    decisionsFor client (l.run xs).1 =
      verdicts l.limit l.window (l.windows.find? client) ((alone client xs).map Moment.now) := by
  rw [(run_alike ordered (.refl client 0 l) apart fun _ _ => Nat.zero_le _).1, alone_eq_asks,
    decisionsFor_asks, ← alone_eq_asks]

/-! ### One request -/

/-- A spell obeys a limit: no more requests are let in, and one is turned away only after as many. -/
structure Spell.Obeys (limit : Nat) (s : Spell) : Prop where
  admitted_le : s.admitted ≤ limit
  turnedAway : ∀ before v after, s.visits = before ++ v :: after → v.admitted = false →
    before.countP Visit.admitted = limit

/-- What the spells of a client say about each other, and about the window that is stored. -/
structure Follows (client : String) (spells : List Spell) (l : Limiter) : Prop where
  stored : l.windows.find? client = spells.head?.map Spell.window
  obeys : ∀ s ∈ spells, s.Obeys l.limit
  apart : spells.IsChain fun later earlier => l.window.nanos ≤ later.started - earlier.started

theorem obeys_nil (limit now : Nat) : Spell.Obeys limit ⟨now, []⟩ := by
  refine ⟨Nat.zero_le _, ?_⟩
  intro before v after same
  cases before <;> cases same

/-- What a window decides on a request obeys the limit. -/
theorem Spell.Obeys.serve {limit : Nat} {s : Spell} (obeys : s.Obeys limit) (length : Duration)
    (now : Nat) :
    (s.add ⟨now, (s.window.serve limit length now).1⟩).Obeys limit ∧
      (s.add ⟨now, (s.window.serve limit length now).1⟩).window =
        (s.window.serve limit length now).2 := by
  by_cases room : s.admitted < limit
  · have serves : s.window.serve limit length now = (.allowed, ⟨s.started, s.admitted + 1⟩) := if_pos room
    have counts : (s.add ⟨now, .allowed⟩).admitted = s.admitted + 1 := by
      simp [Spell.admitted, Spell.add, Visit.admitted]
    rw [serves]
    refine ⟨⟨Nat.le_trans (Nat.le_of_eq counts) room, ?_⟩, by rw [Spell.window, counts, Spell.add]⟩
    intro before v after same away
    rcases Log.eq_concat_iff.mp same.symm with ⟨-, rfl, -⟩ | ⟨after, -, same⟩
    · cases away
    · exact obeys.turnedAway before v after same.symm away
  · have full : s.admitted = limit := Nat.le_antisymm obeys.admitted_le (Nat.not_lt.mp room)
    have serves : s.window.serve limit length now =
        (.limited ⟨length.nanos - (now - s.started)⟩, s.window) := if_neg room
    have counts : ∀ wait, (s.add ⟨now, .limited wait⟩).admitted = s.admitted := by
      intro wait
      simp [Spell.admitted, Spell.add, Visit.admitted]
    rw [serves]
    refine ⟨⟨by rw [counts]; exact obeys.admitted_le, ?_⟩,
      by rw [Spell.window, counts, Spell.add, Spell.window]⟩
    intro before v after same away
    rcases Log.eq_concat_iff.mp same.symm with ⟨rfl, -, -⟩ | ⟨after, -, same⟩
    · exact full
    · exact obeys.turnedAway before v after same.symm away

/-- The request counts in the window that is open, or opens one that comes late enough. -/
theorem Follows.current (follows : Follows client spells l) (now : Nat) :
    (currentSpell l client now spells).1.window = (l.openWindow now client).getD ⟨now, 0⟩ ∧
      (∀ s, s = (currentSpell l client now spells).1 ∨ s ∈ (currentSpell l client now spells).2 →
        s = ⟨now, []⟩ ∨ s ∈ spells) ∧
      ((currentSpell l client now spells).1 :: (currentSpell l client now spells).2).IsChain
        fun later earlier => l.window.nanos ≤ later.started - earlier.started := by
  have stored := follows.stored
  cases spells with
  | nil =>
    have none : l.openWindow now client = none := by rw [openWindow, stored]; rfl
    refine ⟨by rw [none]; rfl, ?_, List.IsChain.singleton _⟩
    rintro s (rfl | mem)
    · exact .inl rfl
    · cases mem
  | cons s earlier =>
    have sees : l.openWindow now client =
        if Window.isOpen l.window now s.window then some s.window else none := by
      rw [openWindow, stored]
      rfl
    by_cases isOpen : Window.isOpen l.window now s.window = true
    · rw [if_pos isOpen] at sees
      rw [currentSpell, sees]
      refine ⟨rfl, ?_, follows.apart⟩
      rintro s' (rfl | mem)
      · exact .inr (.head _)
      · exact .inr (.tail _ mem)
    · rw [if_neg isOpen] at sees
      rw [currentSpell, sees]
      refine ⟨rfl, ?_, ?_⟩
      · rintro s' (rfl | mem)
        · exact .inl rfl
        · exact .inr mem
      · have ended : l.window.nanos ≤ now - s.started :=
          Nat.not_lt.mp fun going => isOpen (decide_eq_true going)
        exact List.isChain_cons_cons.mpr ⟨ended, follows.apart⟩

/-- **One more request**: the spells still follow. -/
theorem Follows.attend (follows : Follows client spells l) (now : Nat) :
    Follows client (attend client (spells, l) now).1 (attend client (spells, l) now).2 := by
  obtain ⟨window, among, chain⟩ := follows.current now
  have decided : (l.check now client).1 =
      ((currentSpell l client now spells).1.window.serve l.limit l.window now).1 := by
    rw [window, check_fst]
  have remembered : (l.check now client).2.windows.find? client =
      some ((currentSpell l client now spells).1.window.serve l.limit l.window now).2 := by
    rw [window, find?_check_self]
  simp only [Limiter.attend]
  generalize currentSpell l client now spells = current at among chain decided remembered ⊢
  obtain ⟨s, earlier⟩ := current
  have obeys : ∀ s', s' = s ∨ s' ∈ earlier → s'.Obeys l.limit := by
    intro s' mem
    rcases among s' mem with rfl | mem
    · exact obeys_nil l.limit now
    · exact follows.obeys s' mem
  obtain ⟨obeysNow, windowNow⟩ := (obeys s (.inl rfl)).serve l.window now
  rw [decided]
  constructor
  · rw [remembered, List.head?_cons, Option.map_some, windowNow]
  · intro s' mem
    rcases List.mem_cons.mp mem with rfl | mem
    · exact obeysNow
    · exact obeys s' (.inr mem)
  · cases earlier with
    | nil => exact List.IsChain.singleton _
    | cons s' earlier => exact List.isChain_cons_cons.mpr (List.isChain_cons_cons.mp chain)

/-- **However many requests there are**, in whatever order they have read the clock. -/
theorem history_follows (unknown : l.windows.find? client = none) (readings : List Nat) :
    Follows client (l.history client readings).1 (l.history client readings).2 := by
  induction readings using List.reverseRecOn with
  | nil => exact ⟨unknown, fun s mem => (nomatch mem), .nil⟩
  | append_singleton readings now ih =>
    rw [history_concat]
    exact ih.attend now

/-! ### A clock that does not go back -/

/-- All requests of a spell have read a moment at which its window was open. -/
def Timely (length : Duration) (spells : List Spell) : Prop :=
  ∀ s ∈ spells, ∀ v ∈ s.visits, s.started ≤ v.now ∧ v.now < s.started + length.nanos

/-- The spell in which a request counts is open then. -/
theorem Follows.current_isOpen (follows : Follows client spells l) (proper : 0 < l.window.nanos)
    (now : Nat) :
    Window.isOpen l.window now (currentSpell l client now spells).1.window = true := by
  obtain ⟨window, -, -⟩ := follows.current now
  rw [window]
  cases sees : l.openWindow now client with
  | none => simpa [Window.isOpen] using proper
  | some w => exact (Option.filter_eq_some_iff.mp sees).2

/-- **While the clock does not go back**, spells are timely, and each has started when a request was
made. -/
theorem history_timely (unknown : l.windows.find? client = none) (readings : List Nat)
    (proper : 0 < l.window.nanos) (ordered : readings.Pairwise (· ≤ ·)) :
    Timely l.window (l.history client readings).1 ∧
      ∀ s ∈ (l.history client readings).1, s.started ∈ readings := by
  induction readings using List.reverseRecOn with
  | nil => exact ⟨fun s mem => (nomatch mem), fun s mem => (nomatch mem)⟩
  | append_singleton readings now ih =>
    obtain ⟨before, -, after⟩ := List.pairwise_append.mp ordered
    obtain ⟨timely, started⟩ := ih before
    have follows := history_follows unknown readings
    have rules := (history_rules l client readings).2
    rw [history_concat]
    generalize l.history client readings = h at timely started follows rules
    obtain ⟨spells, l'⟩ := h
    replace rules : l'.window = l.window := rules
    have isOpen := follows.current_isOpen (rules ▸ proper) now
    obtain ⟨-, among, -⟩ := follows.current now
    simp only [attend, rules] at isOpen among ⊢
    generalize currentSpell l' client now spells = current at isOpen among ⊢
    obtain ⟨s, earlier⟩ := current
    have going : now - s.started < l.window.nanos := of_decide_eq_true isOpen
    have begun : s.started ≤ now := by
      rcases among s (.inl rfl) with rfl | mem
      · exact Nat.le_refl now
      · exact after _ (started s mem) now (.head _)
    constructor
    · intro s' mem v visit
      rcases List.mem_cons.mp mem with rfl | mem
      · rcases List.mem_append.mp visit with visit | visit
        · rcases among s (.inl rfl) with rfl | mem
          · cases visit
          · exact timely s mem v visit
        · obtain rfl := List.mem_singleton.mp visit
          exact ⟨begun, by simp only [Spell.add]; omega⟩
      · rcases among s' (.inr mem) with rfl | mem
        · cases visit
        · exact timely s' mem v visit
    · have known : ∀ s', s' = s ∨ s' ∈ earlier → s'.started ∈ readings ++ [now] := by
        intro s' mem
        rcases among s' mem with rfl | mem
        · exact List.mem_append_right _ (.head _)
        · exact List.mem_append_left _ (started s' mem)
      intro s' mem
      rcases List.mem_cons.mp mem with rfl | mem
      · exact known s (.inl rfl)
      · exact known s' (.inr mem)

end Gatehouse.Limiter
