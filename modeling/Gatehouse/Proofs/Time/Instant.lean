import Mathlib.Tactic.ByContra
import Gatehouse.Time.Instant

/-!
Instants as points of a line, and spans added to them.

A leap second stands at the same place of the line as the second before it.

* `position`: the place of an instant. With whether it lies in a leap second, it says which instant it is
  (`eq_of_position`).
* `Untellable`: what cannot be told of the end of a span.
* `after?_of_tellable`, `after?_eq_none_iff`: the end of a span is exact whenever it can be told.
-/

namespace Gatehouse.Instant

/-- The nanoseconds from the beginning of 1970 to an instant. A leap second counts like the second before it. -/
def position (t : Instant) : Int := t.secs * 1000000000 + (t.nanos % 1000000000 : Nat)

/-- Whether an instant lies in a leap second. -/
def InLeap (t : Instant) : Prop := 1000000000 ≤ t.nanos

/-- The end of a span from an instant on cannot be told: the span is longer than 63 bits of milliseconds, or its end
lies beyond the last second. -/
def Untellable (t : Instant) (d : Duration) : Prop :=
  maxShift < d ∨ (maxSecs + 1) * 1000000000 ≤ t.position + d.nanos

instance (t : Instant) : Decidable t.InLeap := inferInstanceAs (Decidable (1000000000 ≤ t.nanos))

instance (t : Instant) (d : Duration) : Decidable (t.Untellable d) :=
  inferInstanceAs (Decidable (maxShift < d ∨ (maxSecs + 1) * 1000000000 ≤ t.position + d.nanos))

variable {t u : Instant} {d : Duration}

/-- **An instant is known** by its place and by whether it lies in a leap second. -/
theorem eq_of_position (place : t.position = u.position) (leap : t.InLeap ↔ u.InLeap) : t = u := by
  have ht := t.nanos_lt
  have hu := u.nanos_lt
  unfold position at place
  unfold InLeap at leap
  have secs : t.secs = u.secs := by omega
  have nanos : t.nanos = u.nanos := by omega
  cases t
  cases u
  congr

/-- What lies a second ahead or more lies later. -/
theorem before_of_position (ahead : t.position + 1000000000 ≤ u.position) : t.before u = true := by
  unfold position at ahead
  have later : t.secs < u.secs := by omega
  simp [before, later]

theorem ofParts?_eq_some {secs : Int} {nanos : Nat} (lower : minSecs ≤ secs) (upper : secs ≤ maxSecs)
    (small : nanos < 2000000000) (leap : 1000000000 ≤ nanos → secs % 60 = 59) :
    ofParts? secs nanos = some ⟨secs, nanos, lower, upper, small, leap⟩ :=
  dif_pos ⟨lower, upper, small, leap⟩

/-- **The end of a span that can be told** lies exactly that span ahead. It is in a leap second only if the span does
not lead out of the one in which it begins. -/
theorem after?_of_tellable (told : ¬ t.Untellable d) :
    ∃ u, t.after? d = some u ∧ u.position = t.position + d.nanos ∧
      (u.InLeap ↔ t.InLeap ∧ t.nanos + d.nanos < 2000000000) := by
  obtain ⟨short, room⟩ := not_or.mp told
  have lower := t.lower
  unfold position at room
  unfold after? InLeap position
  rw [if_neg short]
  split
  · next stays =>
    refine ⟨_, ofParts?_eq_some t.lower t.upper stays.1 fun _ => t.leap stays.2, ?_, ?_⟩
    · dsimp only
      omega
    · dsimp only
      omega
  · next leaves =>
    refine ⟨_, ofParts?_eq_some (by omega) (by omega) (by omega) (by omega), ?_, ?_⟩
    · dsimp only
      omega
    · dsimp only
      omega

/-- **There is no end of a span** exactly if it cannot be told. -/
theorem after?_eq_none_iff : t.after? d = none ↔ t.Untellable d := by
  constructor
  · intro none
    by_contra told
    obtain ⟨u, some, -⟩ := after?_of_tellable told
    cases none.symm.trans some
  · rintro (long | far)
    · exact if_pos long
    · have upper := t.upper
      have small := t.nanos_lt
      unfold position at far
      unfold after?
      split
      · rfl
      · have leaves : ¬ (t.nanos + d.nanos < 2000000000 ∧ 1000000000 ≤ t.nanos) := by omega
        rw [if_neg leaves]
        exact dif_neg fun inRange => by omega

end Gatehouse.Instant
