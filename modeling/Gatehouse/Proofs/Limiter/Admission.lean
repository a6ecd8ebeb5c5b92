import Gatehouse.Proofs.Limiter.Spells

/-!
How many requests of a client are admitted, and when.

* `admittedWithin_le`: while the clock does not go back, two windows share any stretch of time that is
  no longer than a window.
* `reopensAfter_iff`: a client that is turned away is told the one span after which it is let in again.
* `admission_law`: what follows for all requests of a client.
-/

namespace Gatehouse.Limiter

variable {l : Limiter} {client : String} {spells : List Spell} {now : Nat}

/-! ### Stretches of time -/

/-- Whether a request is let in during a stretch of time that begins at a moment. -/
def Visit.admittedWithin (first : Nat) (length : Duration) (v : Visit) : Bool :=
  v.admitted && (first ≤ v.now && v.now < first + length.nanos)

/-- How many requests are let in during a stretch of time that begins at a moment. -/
def admittedWithin (first : Nat) (length : Duration) (spells : List Spell) : Nat :=
  (visitsOf spells).countP (Visit.admittedWithin first length)

variable {limit first : Nat} {length : Duration} {s : Spell} {earlier : List Spell}

/-- No request is made during a stretch without length. -/
theorem admittedWithin_of_empty (empty : length.nanos = 0) : admittedWithin first length spells = 0 := by
  rw [admittedWithin, List.countP_eq_zero]
  intro v _ inside
  simp only [Visit.admittedWithin, Bool.and_eq_true, decide_eq_true_eq] at inside
  omega

theorem admittedWithin_cons (first : Nat) (length : Duration) (s : Spell) (earlier : List Spell) :
    admittedWithin first length (s :: earlier) = admittedWithin first length earlier +
      s.visits.countP (Visit.admittedWithin first length) := by
  simp [admittedWithin, visitsOf]

theorem within_spell_le (obeys : s.Obeys limit) :
    s.visits.countP (Visit.admittedWithin first length) ≤ limit := by
  refine Nat.le_trans (List.countP_mono_left ?_) obeys.admitted_le
  intro v _ both
  exact (Bool.and_eq_true_iff.mp both).1

/-- A window has nothing to do with a stretch of time that it does not reach into. -/
theorem within_spell_eq_zero (timely : Timely length (s :: earlier))
    (outside : s.started + length.nanos ≤ first ∨ first + length.nanos ≤ s.started) :
    s.visits.countP (Visit.admittedWithin first length) = 0 := by
  rw [List.countP_eq_zero]
  intro v visit counted
  obtain ⟨low, high⟩ := timely s (.head _) v visit
  simp only [Visit.admittedWithin, Bool.and_eq_true, decide_eq_true_eq] at counted
  omega

section Stretch

variable (proper : 0 < length.nanos)
include proper

/-- Windows that follow each other after a stretch of time has begun are all but over by then. -/
theorem admittedWithin_eq_zero (timely : Timely length (s :: earlier))
    (apart : (s :: earlier).IsChain fun later earlier => length.nanos ≤ later.started - earlier.started)
    (ended : s.started + length.nanos ≤ first) : admittedWithin first length (s :: earlier) = 0 := by
  induction earlier generalizing s with
  | nil =>
    rw [admittedWithin_cons, within_spell_eq_zero timely (.inl ended)]
    rfl
  | cons s' earlier ih =>
    obtain ⟨gap, apart'⟩ := List.isChain_cons_cons.mp apart
    rw [admittedWithin_cons, within_spell_eq_zero timely (.inl ended),
      ih (fun s mem => timely s (.tail _ mem)) apart' (by omega)]

/-- Only the last window that has begun before a stretch of time reaches into it. -/
theorem admittedWithin_le_limit (timely : Timely length (s :: earlier))
    (apart : (s :: earlier).IsChain fun later earlier => length.nanos ≤ later.started - earlier.started)
    (obeys : s.Obeys limit) (begun : s.started < first) :
    admittedWithin first length (s :: earlier) ≤ limit := by
  have own : s.visits.countP (Visit.admittedWithin first length) ≤ limit := within_spell_le obeys
  rw [admittedWithin_cons]
  cases earlier with
  | nil => simpa [admittedWithin, visitsOf] using own
  | cons s' earlier =>
    obtain ⟨gap, apart'⟩ := List.isChain_cons_cons.mp apart
    have before := admittedWithin_eq_zero proper (fun s mem => timely s (.tail _ mem)) apart'
      (by omega : s'.started + length.nanos ≤ first)
    omega

/-- **Two windows share a stretch of time** that is no longer than a window. -/
theorem admittedWithin_le (timely : Timely length spells)
    (apart : spells.IsChain fun later earlier => length.nanos ≤ later.started - earlier.started)
    (obeys : ∀ s ∈ spells, s.Obeys limit) (first : Nat) :
    admittedWithin first length spells ≤ 2 * limit := by
  induction spells with
  | nil => exact Nat.zero_le _
  | cons s earlier ih =>
    have timely' : Timely length earlier := fun s mem => timely s (.tail _ mem)
    have obeys' : ∀ s ∈ earlier, s.Obeys limit := fun s mem => obeys s (.tail _ mem)
    have own : s.visits.countP (Visit.admittedWithin first length) ≤ limit :=
      within_spell_le (obeys s (.head _))
    rw [admittedWithin_cons]
    by_cases late : first + length.nanos ≤ s.started
    · rw [within_spell_eq_zero timely (.inr late)]
      exact ih timely' (List.isChain_of_isChain_cons apart) obeys'
    · cases earlier with
      | nil =>
        have none : admittedWithin first length [] = 0 := rfl
        omega
      | cons s' earlier =>
        obtain ⟨gap, apart'⟩ := List.isChain_cons_cons.mp apart
        have before := admittedWithin_le_limit proper timely' apart' (obeys' s' (.head _))
          (by omega : s'.started < first)
        omega

end Stretch

/-! ### Turned away -/

/-- A client that asks again is turned away before a span is over, and let in as soon as it is. -/
def ReopensAfter (l : Limiter) (client : String) (now span : Nat) : Prop :=
  ∀ readings : List Nat, (∀ t ∈ readings, now ≤ t ∧ t < now + span) →
    (∀ d ∈ (l.run (asks client readings)).1, d.2 ≠ .allowed) ∧
      ∀ t, now + span ≤ t → ((l.run (asks client readings)).2.check t client).1 = .allowed

/-- The window of a client is full. -/
def Full (l : Limiter) (client : String) (w : Window) : Prop :=
  l.windows.find? client = some w ∧ l.limit ≤ w.count

variable {w : Window} {wait : Duration}

/-- A full window lets nobody in before it ends. -/
theorem Full.check (full : l.Full client w) (early : now - w.started < l.window.nanos) :
    (l.check now client).1 = .limited ⟨l.window.nanos - (now - w.started)⟩ ∧
      (l.check now client).2.Full client w := by
  have sees : l.openWindow now client = some w := by
    rw [openWindow, full.1]
    exact Option.filter_eq_some_iff.mpr ⟨rfl, decide_eq_true early⟩
  have serves : w.serve l.limit l.window now =
      (.limited ⟨l.window.nanos - (now - w.started)⟩, w) := if_neg (Nat.not_lt.mpr full.2)
  constructor
  · have decided := check_fst l now client
    rwa [sees, Option.getD_some, serves] at decided
  · have remembered := find?_check_self l now client
    rw [sees, Option.getD_some, serves] at remembered
    exact ⟨remembered, full.2⟩

/-- Nobody is let in by any number of requests before it ends. -/
theorem Full.run (full : l.Full client w) (readings : List Nat)
    (early : ∀ t ∈ readings, t - w.started < l.window.nanos) :
    (∀ d ∈ (l.run (asks client readings)).1, d.2 ≠ .allowed) ∧
      (l.run (asks client readings)).2.Full client w ∧
      (l.run (asks client readings)).2.limit = l.limit := by
  induction readings generalizing l with
  | nil => exact ⟨fun d mem => (nomatch mem), full, rfl⟩
  | cons now readings ih =>
    obtain ⟨away, full'⟩ := full.check (early now (.head _))
    obtain ⟨aways, full'', limit⟩ := ih full' fun t mem => early t (.tail _ mem)
    rw [run_cons_ask, away]
    refine ⟨?_, full'', limit⟩
    intro d mem
    rcases List.mem_cons.mp mem with rfl | mem
    · simp
    · exact aways d mem

/-- When it has ended, the next request is let in. -/
theorem check_of_ended (stored : l.windows.find? client = some w) (positive : 1 ≤ l.limit)
    (ended : l.window.nanos ≤ now - w.started) : (l.check now client).1 = .allowed := by
  have sees : l.openWindow now client = none := by
    rw [openWindow, stored]
    exact Option.filter_eq_none_iff.mpr fun w' same going => by
      cases same
      exact absurd (of_decide_eq_true going) (Nat.not_lt.mpr ended)
  rw [check_fst, sees]
  exact congrArg Prod.fst (if_pos positive)

/-- A client is turned away because its window is full, and is told when that ends. -/
theorem full_of_limited (positive : 1 ≤ l.limit) (away : (l.check now client).1 = .limited wait) :
    ∃ w, l.Full client w ∧ now - w.started < l.window.nanos ∧
      wait.nanos = l.window.nanos - (now - w.started) := by
  rw [check_fst] at away
  cases sees : l.openWindow now client with
  | none =>
    have fresh : (Window.serve l.limit l.window now ⟨now, 0⟩).1 = .allowed :=
      congrArg Prod.fst (if_pos positive)
    rw [sees, Option.getD_none, fresh] at away
    cases away
  | some w =>
    obtain ⟨stored, isOpen⟩ := Option.filter_eq_some_iff.mp sees
    rw [sees, Option.getD_some] at away
    by_cases room : w.count < l.limit
    · rw [Window.serve, if_pos room] at away
      cases away
    · rw [Window.serve, if_neg room] at away
      exact ⟨w, ⟨stored, Nat.not_lt.mp room⟩, of_decide_eq_true isOpen,
        congrArg Duration.nanos (Decision.limited.inj away).symm⟩

/-- **A client that is turned away is told the one span** after which it is let in again, if its window
has not started at a later moment than it has read. -/
theorem reopensAfter_iff (positive : 1 ≤ l.limit) (away : (l.check now client).1 = .limited wait)
    (begun : ∀ w, l.windows.find? client = some w → w.started ≤ now) (span : Nat) :
    (l.check now client).2.ReopensAfter client now span ↔ span = wait.nanos := by
  obtain ⟨w, full, going, told⟩ := full_of_limited positive away
  have started := begun w full.1
  obtain ⟨-, full⟩ := full.check going
  have reopens : (l.check now client).2.ReopensAfter client now wait.nanos := by
    intro readings inside
    obtain ⟨aways, full', limit⟩ := full.run readings (by
      intro t mem
      have := inside t mem
      rw [check_window]
      omega)
    refine ⟨aways, ?_⟩
    intro t late
    refine check_of_ended full'.1 (by rw [limit]; exact positive) ?_
    rw [run_window, check_window]
    omega
  constructor
  · -- Two such spans cannot differ, for a request at the end of the shorter one is let in and is not.
    intro reopens'
    rcases Nat.lt_trichotomy span wait.nanos with shorter | same | longer
    · have letIn := (reopens' [] (by simp)).2 (now + span) (Nat.le_refl _)
      have away := (reopens [now + span] (by simpa using shorter)).1 _ (.head _)
      exact absurd letIn away
    · exact same
    · have letIn := (reopens [] (by simp)).2 (now + wait.nanos) (Nat.le_refl _)
      have away := (reopens' [now + wait.nanos] (by simpa using longer)).1 _ (.head _)
      exact absurd letIn away
  · rintro rfl
    exact reopens

/-! ### All requests of a client -/

/-- **The law of admission.** Take a new limiter with any limit and any length of windows, and a client
that asks any number of times; the moments that its requests have read from the clock may come in any
order. -/
theorem admission_law (limit : Nat) (window : Duration) (client : String) (readings : List Nat) :
    let (spells, l) := (new limit window).history client readings
    -- The spells hold all requests, with the decisions that the limiter gives, and the last one is
    -- stored.
    ((visitsOf spells).map Visit.now = readings ∧
      (new limit window).run (asks client readings) =
        ((visitsOf spells).map fun v => (client, v.decision), l) ∧
      l.windows.find? client = spells.head?.map Spell.window) ∧
    -- Windows start as far apart as they are long. (A window without length may start in any order.)
    spells.IsChain (fun later earlier => window.nanos ≤ later.started - earlier.started) ∧
    -- Each lets in as many as the limit says, and turns nobody away before.
    (∀ s ∈ spells, s.admitted ≤ limit ∧ ∀ before v after, s.visits = before ++ v :: after →
      v.admitted = false → before.countP Visit.admitted = limit) ∧
    (∀ w, l.windows.find? client = some w → w.count ≤ limit) ∧
    -- If the clock does not go back, no stretch of time that is as long as a window sees more than
    -- twice the limit, and who is turned away is told the one span after which it is let in again.
    (readings.Pairwise (· ≤ ·) →
      (∀ first, admittedWithin first window spells ≤ 2 * limit) ∧
      (1 ≤ limit → ∀ now wait, (∀ t ∈ readings, t ≤ now) → (l.check now client).1 = .limited wait →
        0 < wait.nanos ∧
          ∀ span, (l.check now client).2.ReopensAfter client now span ↔ span = wait.nanos)) := by
  have unknown : (new limit window).windows.find? client = none := Table.find?_empty client
  have held := visitsOf_history (new limit window) client readings
  have follows := history_follows unknown readings
  obtain ⟨limits, windows⟩ := history_rules (new limit window) client readings
  have timely := history_timely unknown readings
  generalize (new limit window).history client readings = h at held follows limits windows timely ⊢
  obtain ⟨spells, l⟩ := h
  obtain ⟨stored, obeys, apart⟩ := follows
  simp only at stored obeys apart limits windows timely ⊢
  rw [limits] at obeys
  rw [windows] at apart
  have counted : ∀ w, l.windows.find? client = some w → ∃ s ∈ spells, w = s.window := by
    intro w found
    obtain ⟨s, last, rfl⟩ := Option.map_eq_some_iff.mp (stored.symm.trans found)
    exact ⟨s, List.mem_of_head? last, rfl⟩
  refine ⟨⟨held.1, held.2, stored⟩, apart, ?_, ?_, ?_⟩
  · intro s mem
    exact ⟨(obeys s mem).admitted_le, (obeys s mem).turnedAway⟩
  · intro w found
    obtain ⟨s, mem, rfl⟩ := counted w found
    exact (obeys s mem).admitted_le
  · intro ordered
    constructor
    · intro first
      rcases Nat.eq_zero_or_pos window.nanos with empty | proper
      · rw [admittedWithin_of_empty empty]
        exact Nat.zero_le _
      · exact admittedWithin_le proper (timely proper ordered).1 apart obeys first
    · intro positive now wait late away
      have limits' : 1 ≤ l.limit := by rw [limits]; exact positive
      obtain ⟨w, full, going, told⟩ := full_of_limited limits' away
      have proper : 0 < window.nanos := by
        have length : l.window.nanos = window.nanos := congrArg Duration.nanos windows
        omega
      refine ⟨by omega, reopensAfter_iff limits' away ?_⟩
      intro w found
      obtain ⟨s, mem, rfl⟩ := counted w found
      exact late _ ((timely proper ordered).2 s mem)

/-- Around the end of a window more than the limit are let in, and a client that comes too early is told
to wait for the rest of the window. -/
theorem admission_law_turn :
    let h := (new 2 ⟨5⟩).history "a" [0, 4, 5, 5]
    [0, 4, 5, 5].Pairwise (· ≤ ·) ∧ admittedWithin 4 ⟨5⟩ h.1 = 3 ∧ 3 ≤ 2 * 2 ∧
      1 ≤ 2 ∧ (∀ t ∈ [0, 4, 5, 5], t ≤ 7) ∧ (h.2.check 7 "a").1 = .limited ⟨3⟩ ∧
      ∀ span, (h.2.check 7 "a").2.ReopensAfter "a" 7 span ↔ span = 3 := by
  intro h
  have ordered : [0, 4, 5, 5].Pairwise (· ≤ ·) := by decide
  have late : ∀ t ∈ [0, 4, 5, 5], t ≤ 7 := by decide
  have away : (h.2.check 7 "a").1 = .limited ⟨3⟩ := by decide
  have within : admittedWithin 4 ⟨5⟩ h.1 = 3 := by decide
  obtain ⟨-, -, -, -, law⟩ := admission_law 2 ⟨5⟩ "a" [0, 4, 5, 5]
  obtain ⟨twice, told⟩ := law ordered
  exact ⟨ordered, within, within ▸ twice 4, by decide, late, away, (told (by decide) 7 ⟨3⟩ late away).2⟩

end Gatehouse.Limiter
