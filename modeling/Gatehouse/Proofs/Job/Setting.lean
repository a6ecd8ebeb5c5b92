import Gatehouse.Proofs.Job.History

/-!
Jobs in any setting: what storage, the cache and the wall clock do is laid down call by call.

A world answers calls from its data and its script. A setting answers them in any way at all: with any
result after any span, or never. Timers are exact in it.

* `Job.meet`: how a job fares in a setting. `Job.asks`: the calls that it makes there.
* `meet_bind`: a job that goes on with the result of another one fares as the one and then the other.
* `meet_alike`: a job that calls storage alone fares alike in settings whose storage is the same, whenever
  it starts.
* `exists_meet`: whatever a job comes to in a world, it comes to in some setting.
-/

namespace Gatehouse

/-! ### Settings -/

/-- What comes of a call: an answer after a span, or none ever. -/
inductive Fate (e : Effect) where
  | answer (after : Duration) (r : e.Result)
  | silence

namespace Fate

variable {e : Effect}

/-- How long a job waits for a call with a limit, and what it goes on with. What comes with the limit
counts. -/
def met (limit : Duration) : Fate e → Duration × e.Result
  | .answer d r => if d.nanos ≤ limit.nanos then (d, r) else (limit, .error (e.timedOut limit))
  | .silence => (limit, .error (e.timedOut limit))

/-- The same if there may be no limit, and the wait no end. -/
def within : Option Duration → Fate e → Option (Duration × e.Result)
  | some limit, f => some (f.met limit)
  | none, .answer d r => some (d, r)
  | none, .silence => none

/-- What is ever answered to a call. -/
def answer? : Fate e → Option e.Result
  | .answer _ r => some r
  | .silence => none

/-- An answer that comes at once is met, whatever the limit. -/
theorem within_answer_zero (limit : Option Duration) (r : e.Result) :
    (Fate.answer ⟨0⟩ r).within limit = some (⟨0⟩, r) := by
  cases limit with
  | none => rfl
  | some limit =>
    have inTime : (⟨0⟩ : Duration).nanos ≤ limit.nanos := Nat.zero_le _
    simp only [within, met, if_pos inTime]

end Fate

/-- The surroundings of a job: what comes of the next call of storage, and of each one after it, whatever
is asked then, the same for the cache, what the wall clock shows whenever it is read, and the moment. -/
structure Setting where
  storage : Nat → (c : Store.Call) → Fate (.store c)
  cache : Nat → (c : Cache.Call) → Fate (.cache c)
  readings : Nat → Instant
  now : Nat

namespace Setting

variable (s : Setting)

/-- What comes of a call that is made now. -/
def fate : (e : Effect) → Fate e
  | .store c => s.storage 0 c
  | .cache c => s.cache 0 c

/-- After a call has been made. -/
def dialled : Effect → Setting
  | .store _ => { s with storage := fun n => s.storage (n + 1) }
  | .cache _ => { s with cache := fun n => s.cache (n + 1) }

/-- After the wall clock has been read. -/
def seen : Setting := { s with readings := fun n => s.readings (n + 1) }

/-- A span later. -/
def later (d : Duration) : Setting := { s with now := s.now + d.nanos }

/-- At an earlier moment, before a call of which a given thing comes. -/
def preceded (now : Nat) : (e : Effect) → Fate e → Setting
  | .store c, f => { s with
      now
      storage := fun
        | 0 => Function.update (fun _ => .silence) c f
        | n + 1 => s.storage n }
  | .cache c, f => { s with
      now
      cache := fun
        | 0 => Function.update (fun _ => .silence) c f
        | n + 1 => s.cache n }

theorem now_preceded (now : Nat) (e : Effect) (f : Fate e) : (s.preceded now e f).now = now := by
  cases e <;> rfl

theorem fate_preceded (now : Nat) (e : Effect) (f : Fate e) : (s.preceded now e f).fate e = f := by
  cases e with
  | store c => exact @Function.update_self _ (fun c => Fate (.store c)) _ c f fun _ => .silence
  | cache c => exact @Function.update_self _ (fun c => Fate (.cache c)) _ c f fun _ => .silence

theorem dialled_preceded {s : Setting} {now : Nat} {d : Duration} (later : s.now = now + d.nanos)
    (e : Effect) (f : Fate e) : ((s.preceded now e f).dialled e).later d = s := by
  obtain ⟨storage, cache, readings, moment⟩ := s
  subst later
  cases e <;> rfl

/-- Storage and the wall clock do the same in two settings, whatever the cache does. -/
structure Alike (s s' : Setting) : Prop where
  storage : s.storage = s'.storage
  readings : s.readings = s'.readings

instance : Inhabited Setting := ⟨⟨fun _ _ => .silence, fun _ _ => .silence, fun _ => default, 0⟩⟩

end Setting

/-! ### Encounters -/

/-- One thing that a job is told, and the moments between which it has waited for it. -/
structure Stage where
  event : Event
  since : Nat
  till : Nat

/-- How a job fares: its result, if it comes to one, what it is told on the way, and the setting that is
left. -/
structure Encounter (α : Type) where
  result : Option α
  stages : List Stage
  left : Setting

namespace Encounter

variable {α β : Type}

/-- What a job is told. -/
def events (m : Encounter α) : History := m.stages.map Stage.event

/-- An encounter that begins with some more stages. -/
def after (m : Encounter α) (before : List Stage) : Encounter α := { m with stages := before ++ m.stages }

/-- An encounter, and one that goes on with its result. -/
def andThen (m : Encounter α) (f : α → Setting → Encounter β) : Encounter β :=
  match m.result with
  | some a => (f a m.left).after m.stages
  | none => ⟨none, m.stages, m.left⟩

theorem events_after (m : Encounter α) (before : List Stage) :
    (m.after before).events = before.map Stage.event ++ m.events :=
  List.map_append

theorem after_andThen (m : Encounter α) (before : List Stage) (f : α → Setting → Encounter β) :
    (m.after before).andThen f = (m.andThen f).after before := by
  unfold andThen after
  cases m.result with
  | none => rfl
  | some a => simp only [List.append_assoc]

end Encounter

namespace Job

variable {α β : Type}

/-- How a job fares in a setting. -/
def meet : Job α → Setting → Encounter α
  | .done a, s => ⟨some a, [], s⟩
  | .wall k, s => ((k (s.readings 0)).meet s.seen).after [⟨.read (s.readings 0), s.now, s.now⟩]
  | .pause d next, s => (next.meet (s.later d)).after [⟨.woke, s.now, s.now + d.nanos⟩]
  | .call e limit k, s =>
    match (s.fate e).within limit with
    | some (d, r) =>
      ((k r).meet ((s.dialled e).later d)).after [⟨.answered e r, s.now, s.now + d.nanos⟩]
    | none => ⟨none, [], s.dialled e⟩

/-- The calls that a job makes in a setting, answered or not, first one first. -/
def asks : Job α → Setting → List Effect
  | .done _, _ => []
  | .wall k, s => (k (s.readings 0)).asks s.seen
  | .pause d next, s => next.asks (s.later d)
  | .call e limit k, s =>
    e :: match (s.fate e).within limit with
      | some (d, r) => (k r).asks ((s.dialled e).later d)
      | none => []

/-- **A job that goes on fares as its two parts do**, one after the other. -/
theorem meet_bind (j : Job α) (f : α → Job β) (s : Setting) :
    (j.bind f).meet s = (j.meet s).andThen fun a => (f a).meet := by
  induction j generalizing s with
  | done a => rfl
  | wall k ih =>
    simp only [bind, meet, Encounter.after_andThen]
    rw [ih]
  | pause d next ih =>
    simp only [bind, meet, Encounter.after_andThen]
    rw [ih]
  | call e limit k ih =>
    simp only [bind, meet]
    rcases (s.fate e).within limit with _ | ⟨d, r⟩
    · rfl
    · simp only [Encounter.after_andThen]
      rw [ih]

/-! ### Jobs that call storage alone -/

/-- **Storage that does the same does the same to a job that calls nothing else**, whenever it starts. The
cache is left as it was. -/
theorem meet_alike {j : Job α} (only : j.Only OfStorage) {s s' : Setting} (alike : s.Alike s') :
    (j.meet s).result = (j.meet s').result ∧ (j.meet s).events = (j.meet s').events ∧
      (j.meet s).left.Alike (j.meet s').left ∧ (j.meet s).left.cache = s.cache := by
  induction j generalizing s s' with
  | done a => exact ⟨rfl, rfl, alike, rfl⟩
  | wall k ih =>
    have same : s'.readings = s.readings := alike.readings.symm
    have seen : s.seen.Alike s'.seen := ⟨alike.storage, by simp only [Setting.seen, same]⟩
    obtain ⟨result, events, left, cache⟩ := ih (s.readings 0) (only _) seen
    simp only [meet, same, Encounter.events_after, List.map_cons, List.map_nil]
    exact ⟨result, congrArg _ events, left, cache⟩
  | pause d next ih =>
    have later : (s.later d).Alike (s'.later d) := ⟨alike.storage, alike.readings⟩
    obtain ⟨result, events, left, cache⟩ := ih only later
    simp only [meet, Encounter.events_after, List.map_cons, List.map_nil]
    exact ⟨result, congrArg _ events, left, cache⟩
  | call e limit k ih =>
    cases e with
    | cache c => exact only.1.elim
    | store c =>
      have same : s'.fate (.store c) = s.fate (.store c) := by
        simp only [Setting.fate, alike.storage]
      have dialled : (s.dialled (.store c)).Alike (s'.dialled (.store c)) :=
        ⟨by simp only [Setting.dialled, alike.storage], alike.readings⟩
      simp only [meet, same]
      rcases (s.fate (.store c)).within limit with _ | ⟨d, r⟩
      · exact ⟨rfl, rfl, dialled, rfl⟩
      · have later : ((s.dialled (.store c)).later d).Alike ((s'.dialled (.store c)).later d) :=
          ⟨dialled.storage, dialled.readings⟩
        obtain ⟨result, events, left, cache⟩ := ih r (only.2 r) later
        simp only [Encounter.events_after, List.map_cons, List.map_nil]
        exact ⟨result, congrArg _ events, left, cache⟩

/-! ### Worlds -/

variable {e : Effect} {limit : Option Duration} {k : e.Result → Job α} {x : Option α}

/-- A call goes on in some setting as it may go on at all. -/
theorem exists_meet_call (now : Nat) {f : Fate e} {d : Duration} {r : e.Result}
    (met : f.within limit = some (d, r)) (rest : ∃ s, s.now = now + d.nanos ∧ ((k r).meet s).result = x) :
    ∃ s, s.now = now ∧ ((Job.call e limit k).meet s).result = x := by
  obtain ⟨s, moment, result⟩ := rest
  refine ⟨s.preceded now e f, s.now_preceded now e f, ?_⟩
  simp only [meet, s.fate_preceded now e f, met, Setting.dialled_preceded moment]
  exact result

/-- A call that is answered at all may be answered at once. -/
theorem exists_meet_answered (now : Nat) (r : e.Result)
    (rest : ∀ now, ∃ s, s.now = now ∧ ((k r).meet s).result = x) :
    ∃ s, s.now = now ∧ ((Job.call e limit k).meet s).result = x :=
  exists_meet_call now (Fate.within_answer_zero limit r) (rest _)

/-- A call that is waited for goes on with its answer, or its limit, or not at all. -/
theorem exists_meet_awaited (now : Nat) (w : World) {arrival : Option Nat}
    (rest : ∀ r w now, ∃ s, s.now = now ∧ ((k r).meet s).result = ((k r).run none w).1) :
    ∃ s, s.now = now ∧ ((Job.call e limit k).meet s).result =
      (awaited none e limit k w (Wake.first arrival (limit.map w.clock.timer))).1 := by
  have answered (limit : Option Duration) (tick : Nat) : ∃ s, s.now = now ∧
      ((Job.call e limit k).meet s).result = (awaited none e limit k w (some (.arrival tick))).1 :=
    exists_meet_answered now _ fun now => rest _ _ now
  have timedOut (l : Duration) (tick : Nat) : ∃ s, s.now = now ∧
      ((Job.call e (some l) k).meet s).result = (awaited none e (some l) k w (some (.limit tick))).1 :=
    exists_meet_call now (f := .silence) rfl (rest _ _ _)
  rcases limit with _ | l <;> rcases arrival with _ | tick
  · refine ⟨(default : Setting).preceded now e .silence, Setting.now_preceded .., ?_⟩
    simp only [meet, Setting.fate_preceded, Fate.within]
    rfl
  · exact answered none tick
  · exact timedOut l _
  · simp only [Option.map_some, Wake.first]
    split
    · exact answered (some l) tick
    · exact timedOut l _

/-- **Whatever a job comes to in a world, it comes to in some setting.** -/
theorem exists_meet (j : Job α) (w : World) (now : Nat) :
    ∃ s : Setting, s.now = now ∧ (j.meet s).result = (j.run none w).1 := by
  induction j generalizing w now with
  | done a => exact ⟨{ (default : Setting) with now := now }, rfl, rfl⟩
  | wall k ih =>
    obtain ⟨s, moment, result⟩ := ih w.today w now
    exact ⟨{ s with readings := fun | 0 => w.today | n + 1 => s.readings n }, moment, result⟩
  | pause d next ih =>
    obtain ⟨s, moment, result⟩ := ih (w.reach (w.clock.timer d)) (now + d.nanos)
    refine ⟨{ s with now := now }, rfl, ?_⟩
    have later : ({ s with now := now } : Setting).later d = s := by rw [Setting.later, ← moment]
    show (next.meet (({ s with now := now } : Setting).later d)).result = _
    rw [later, result]
    rfl
  | call e limit k ih =>
    rw [run_call]
    cases (w.dial e).1 with
    | given r => exact exists_meet_answered now r fun now => ih r _ now
    | prompt => exact exists_meet_answered now _ fun now => ih _ _ now
    | late d => exact exists_meet_awaited now _ ih
    | never => exact exists_meet_awaited now _ ih

end Job

end Gatehouse
