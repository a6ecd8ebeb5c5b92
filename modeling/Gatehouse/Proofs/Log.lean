import Mathlib.Data.List.Basic

/-!
Logs that grow at their end.

Entries are never taken out of a log, and a new one is put behind all others. So what stands before an
entry stays what it was when the entry was written.
-/

namespace Gatehouse.Log

variable {α : Type}

/-- **An entry of a log that has grown** is the new one, and all others stand before it, or it is an
old one, and the same ones stand before it as ever. -/
theorem eq_concat_iff {log before after : List α} {x new : α} :
    before ++ x :: after = log ++ [new] ↔
      (before = log ∧ x = new ∧ after = []) ∨
        ∃ after', after = after' ++ [new] ∧ before ++ x :: after' = log := by
  constructor
  · intro same
    rcases List.eq_nil_or_concat after with rfl | ⟨after', l, rfl⟩
    · obtain ⟨rfl, last⟩ := List.append_inj' same rfl
      exact .inl ⟨rfl, List.head_eq_of_cons_eq last, rfl⟩
    · rw [List.concat_eq_append, ← List.cons_append, ← List.append_assoc] at same
      obtain ⟨rfl, last⟩ := List.append_inj' same rfl
      obtain rfl := List.head_eq_of_cons_eq last
      exact .inr ⟨after', List.concat_eq_append, rfl⟩
  · rintro (⟨rfl, rfl, rfl⟩ | ⟨after', rfl, rfl⟩)
    · rfl
    · simp

end Gatehouse.Log
