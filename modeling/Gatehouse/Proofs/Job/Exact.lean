import Gatehouse.Proofs.Job.Setting

/-!
Worlds whose timers are exact.

With a grain of one nanosecond, every timer that can be told comes when its span is over. In such a world a
job fares as it does in a setting, with its moments.

* `Tellable`: the ends of all spans that a job waits for can be told.
* `Fares`: a job comes in some setting to what it comes to in a world, at the same moment.
* `fares_run`: so does every job in a world whose timers are exact.
-/

namespace Gatehouse

/-! ### Clocks -/

namespace Clock

variable {c : Clock} {d : Duration}

theorem timer_eq (exact : c.grain = 1) : c.timer d = (later? c.now d).getD (c.now + farAway.nanos) := by
  rw [timer, exact, Nat.sub_self, Nat.add_zero, Nat.div_one]

/-- A timer whose end can be told is exact. -/
theorem timer_of_told (exact : c.grain = 1) (told : c.now + d.nanos ≤ horizon) : c.timer d = c.now + d.nanos := by
  rw [timer_eq exact, later?, if_pos told, Option.getD_some]

theorem le_timer (exact : c.grain = 1) (d : Duration) : c.now ≤ c.timer d := by
  rw [timer_eq exact]
  unfold later?
  split
  · exact Nat.le_add_right ..
  · exact Nat.le_add_right ..

theorem now_reach (exact : c.grain = 1) {t : Nat} (ahead : c.now ≤ t) : (c.reach t).now = t := by
  show c.now + (t - c.now / c.grain) * c.grain = t
  rw [exact, Nat.div_one, Nat.mul_one, Nat.add_sub_cancel' ahead]

end Clock

namespace Job

variable {α : Type}

/-! ### Spans -/

/-- The ends of all spans that a job waits for can be told, when it starts at a moment or before. -/
def Tellable : Job α → Nat → Prop
  | .done _, _ => True
  | .wall k, now => ∀ t, (k t).Tellable now
  | .pause d next, now => now + d.nanos ≤ Clock.horizon ∧ next.Tellable (now + d.nanos)
  | .call _ (some limit) k, now => now + limit.nanos ≤ Clock.horizon ∧ ∀ r, (k r).Tellable (now + limit.nanos)
  | .call _ none k, _ => ∀ r now, (k r).Tellable now

theorem Tellable.earlier {j : Job α} {now now' : Nat} (told : j.Tellable now') (le : now ≤ now') :
    j.Tellable now := by
  induction j generalizing now now' with
  | done a => trivial
  | wall k ih => exact fun t => ih t (told t) le
  | pause d next ih =>
    obtain ⟨first, rest⟩ := told
    have le' := Nat.add_le_add_right le d.nanos
    exact ⟨Nat.le_trans le' first, ih rest le'⟩
  | call e limit k ih =>
    cases limit with
    | none => exact told
    | some limit =>
      obtain ⟨first, rest⟩ := told
      have le' := Nat.add_le_add_right le limit.nanos
      exact ⟨Nat.le_trans le' first, fun r => ih r (rest r) le'⟩

/-! ### Worlds and settings -/

/-- A job that starts at a moment comes in some setting to a result, or to none, and at the moment that a
world shows. -/
def Fares (j : Job α) (now : Nat) (x : Option α × World) : Prop :=
  ∃ s : Setting, s.now = now ∧ (j.meet s).result = x.1 ∧ (j.meet s).left.now = x.2.clock.now

variable {e : Effect} {limit : Option Duration} {k : e.Result → Job α} {x : Option α × World} {now : Nat}

/-- A call of which a thing may come. -/
theorem fares_call {f : Fate e} {d : Duration} {r : e.Result} (met : f.within limit = some (d, r))
    (rest : (k r).Fares (now + d.nanos) x) : (Job.call e limit k).Fares now x := by
  obtain ⟨s, moment, result, left⟩ := rest
  refine ⟨s.preceded now e f, s.now_preceded now e f, ?_⟩
  simp only [meet, s.fate_preceded now e f, met, Setting.dialled_preceded moment]
  exact ⟨result, left⟩

/-- A call that is answered at once. -/
theorem fares_prompt (r : e.Result) (rest : (k r).Fares now x) : (Job.call e limit k).Fares now x :=
  fares_call (Fate.within_answer_zero limit r) rest

/-- A call whose answer arrives at a tick, no later than its limit. -/
theorem fares_arrival {tick : Nat} (ahead : now ≤ tick) (inTime : ∀ l, limit = some l → tick ≤ now + l.nanos)
    {r : e.Result} (rest : (k r).Fares tick x) : (Job.call e limit k).Fares now x := by
  have met : (Fate.answer ⟨tick - now⟩ r).within limit = some (⟨tick - now⟩, r) := by
    cases limit with
    | none => rfl
    | some l =>
      have short : (⟨tick - now⟩ : Duration).nanos ≤ l.nanos := Nat.sub_le_iff_le_add'.mpr (inTime l rfl)
      simp only [Fate.within, Fate.met, if_pos short]
  have moment : now + (⟨tick - now⟩ : Duration).nanos = tick := Nat.add_sub_cancel' ahead
  exact fares_call met (moment.symm ▸ rest)

/-- A call that is not answered within its limit. -/
theorem fares_limit {l : Duration} (rest : (k (.error (e.timedOut l))).Fares (now + l.nanos) x) :
    (Job.call e (some l) k).Fares now x :=
  fares_call (show Fate.silence.within (some l) = some (l, _) from rfl) rest

/-- A call that is waited for goes on with its answer, or its limit, or not at all. -/
theorem fares_awaited {w : World} (exact : w.clock.grain = 1)
    (told : (Job.call e limit k).Tellable w.clock.now) {arrival : Option Nat}
    (ahead : ∀ tick, arrival = some tick → w.clock.now ≤ tick)
    (rest : ∀ r (w' : World), w'.clock.grain = 1 → (k r).Tellable w'.clock.now →
      (k r).Fares w'.clock.now ((k r).run none w')) :
    (Job.call e limit k).Fares w.clock.now
      (awaited none e limit k w (Wake.first arrival (limit.map w.clock.timer))) := by
  have reached {t : Nat} (ahead : w.clock.now ≤ t) : (w.reach t).clock.now = t := Clock.now_reach exact ahead
  -- An answer arrives, and if there is a limit, no later than that.
  have arrives {t : Nat} (ahead : w.clock.now ≤ t) (inTime : ∀ l, limit = some l → t ≤ w.clock.now + l.nanos) :
      (Job.call e limit k).Fares w.clock.now (awaited none e limit k w (some (.arrival t))) := by
    have goesOn := rest ((w.reach t).perform e).1 ((w.reach t).perform e).2 exact
    have moment : ((w.reach t).perform e).2.clock.now = t := reached ahead
    rw [moment] at goesOn
    refine fares_arrival ahead inTime (goesOn ?_)
    cases limit with
    | none => exact told _ t
    | some l => exact (told.2 _).earlier (inTime l rfl)
  cases limit with
  | none =>
    cases arrival with
    | none =>
      refine ⟨(default : Setting).preceded w.clock.now e .silence, Setting.now_preceded .., ?_⟩
      simp only [meet, Setting.fate_preceded, Fate.within]
      refine ⟨rfl, ?_⟩
      cases e <;> rfl
    | some t =>
      refine arrives (ahead t rfl) ?_
      intro l limited
      cases limited
  | some l =>
    have ends : w.clock.timer l = w.clock.now + l.nanos := Clock.timer_of_told exact told.1
    have passes : (Job.call e (some l) k).Fares w.clock.now
        (awaited none e (some l) k w (some (.limit (w.clock.timer l)))) := by
      have goesOn := rest (.error (e.timedOut l)) (w.reach (w.clock.timer l)) exact
      rw [reached (ends ▸ Nat.le_add_right ..), ends] at goesOn
      rw [ends]
      exact fares_limit (goesOn (told.2 _))
    cases arrival with
    | none => exact passes
    | some t =>
      simp only [Option.map_some, Wake.first]
      split
      · next inTime =>
        refine arrives (ahead t rfl) ?_
        rintro _ ⟨⟩
        exact ends ▸ inTime
      · exact passes

/-- **In a world whose timers are exact, a job fares as in some setting**, if all its spans can be told. -/
theorem fares_run (j : Job α) (w : World) (exact : w.clock.grain = 1) (told : j.Tellable w.clock.now) :
    j.Fares w.clock.now (j.run none w) := by
  induction j generalizing w with
  | done a => exact ⟨{ (default : Setting) with now := w.clock.now }, rfl, rfl, rfl⟩
  | wall k ih =>
    obtain ⟨s, moment, result, left⟩ := ih w.today w exact (told _)
    exact ⟨{ s with readings := fun n => n.casesOn w.today s.readings }, moment, result, left⟩
  | pause d next ih =>
    obtain ⟨first, rest⟩ := told
    have moment : (w.reach (w.clock.timer d)).clock.now = w.clock.now + d.nanos :=
      (Clock.now_reach exact (Clock.le_timer exact d)).trans (Clock.timer_of_told exact first)
    obtain ⟨s, starts, result, left⟩ := ih (w.reach (w.clock.timer d)) exact (moment ▸ rest)
    rw [moment] at starts
    refine ⟨{ s with now := w.clock.now }, rfl, ?_⟩
    have later : ({ s with now := w.clock.now } : Setting).later d = s := by rw [Setting.later, ← starts]
    show (next.meet (({ s with now := w.clock.now } : Setting).later d)).result = _ ∧
      (next.meet (({ s with now := w.clock.now } : Setting).later d)).left.now = _
    rw [later]
    exact ⟨result, left⟩
  | call e limit k ih =>
    have goesOn (r : e.Result) (w' : World) (exact : w'.clock.grain = 1) (told : (k r).Tellable w'.clock.now) :
        (k r).Fares w'.clock.now ((k r).run none w') := ih r w' exact told
    have atOnce (r : e.Result) : (k r).Tellable w.clock.now := by
      cases limit with
      | none => exact told r _
      | some l => exact (told.2 r).earlier (Nat.le_add_right ..)
    have exact' : (w.dial e).2.clock.grain = 1 := exact
    rw [run_call]
    cases (w.dial e).1 with
    | given r => exact fares_prompt r (goesOn r (w.dial e).2 exact (atOnce r))
    | prompt => exact fares_prompt _ (goesOn _ ((w.dial e).2.perform e).2 exact (atOnce _))
    | late d =>
      refine fares_awaited exact' told ?_ goesOn
      rintro _ ⟨⟩
      exact Clock.le_timer exact' d
    | never =>
      refine fares_awaited exact' told ?_ goesOn
      intro t arrives
      cases arrives

end Job

end Gatehouse
