import Gatehouse.Text.Pieces

/-!
Cutting a text at a separator and joining its pieces are inverse to each other.

* `split_eq_iff`: the pieces of a text are the one list of texts without the separator that gives the
  text when it is joined.
* `split_eq_three_iff`: what it means to have exactly three pieces.
* `splitOnce_eq_some_iff`: what it means to be cut at the first separator.
-/

namespace Gatehouse.Text

variable {sep : Char}

theorem split_ne_nil (cs : List Char) : split sep cs ≠ [] := by
  cases cs with
  | nil => simp [split]
  | cons c cs =>
    simp only [split]
    split
    · simp
    · split <;> simp

theorem split_of_not_mem {a : List Char} (h : sep ∉ a) : split sep a = [a] := by
  induction a with
  | nil => rfl
  | cons c a ih =>
    have hc : ¬ c = sep := fun e => h (by simp [e])
    have ha : sep ∉ a := fun m => h (by simp [m])
    simp [split, hc, ih ha]

/-- A piece is separated from the rest by the first separator. -/
theorem split_append {a : List Char} (h : sep ∉ a) (b : List Char) :
    split sep (a ++ sep :: b) = a :: split sep b := by
  induction a with
  | nil => simp [split]
  | cons c a ih =>
    have hc : ¬ c = sep := fun e => h (by simp [e])
    have ha : sep ∉ a := fun m => h (by simp [m])
    simp [split, hc, ih ha]

/-- No piece holds the separator. -/
theorem not_mem_of_mem_split {cs p : List Char} (h : p ∈ split sep cs) : sep ∉ p := by
  induction cs generalizing p with
  | nil =>
    simp only [split, List.mem_singleton] at h
    simp [h]
  | cons c cs ih =>
    simp only [split] at h
    split at h
    · rcases List.mem_cons.mp h with rfl | h
      · simp
      · exact ih h
    · rename_i hc
      cases hs : split sep cs with
      | nil => exact absurd hs (split_ne_nil cs)
      | cons q qs =>
        rw [hs] at h
        rcases List.mem_cons.mp h with rfl | h
        · have hq := ih (p := q) (by simp [hs])
          simp [Ne.symm hc, hq]
        · exact ih (by simp [hs, h])

/-- Joining the pieces of a text gives the text back. -/
theorem intercalate_split (cs : List Char) : [sep].intercalate (split sep cs) = cs := by
  induction cs with
  | nil => simp [split, List.intercalate]
  | cons c cs ih =>
    obtain ⟨p, ps, hs⟩ := List.exists_cons_of_ne_nil (show split sep cs ≠ [] from split_ne_nil cs)
    simp only [split]
    split
    · rename_i hc
      rw [hs] at ih ⊢
      simpa [List.intercalate, hc] using ih
    · rw [hs] at ih ⊢
      cases ps with
      | nil => simpa [List.intercalate] using ih
      | cons q ps => simpa [List.intercalate] using ih

/-- **The pieces of a text** are the one list of texts without the separator that gives the text when
it is joined. -/
theorem split_eq_iff {cs : List Char} {ps : List (List Char)} :
    split sep cs = ps ↔ ps ≠ [] ∧ (∀ p ∈ ps, sep ∉ p) ∧ cs = [sep].intercalate ps := by
  constructor
  · rintro rfl
    exact ⟨split_ne_nil cs, fun _ => not_mem_of_mem_split, (intercalate_split cs).symm⟩
  · rintro ⟨hne, hfree, rfl⟩
    induction ps with
    | nil => exact absurd rfl hne
    | cons p ps ih =>
      have hp : sep ∉ p := hfree p (by simp)
      cases ps with
      | nil => rw [List.intercalate_singleton]; exact split_of_not_mem hp
      | cons q ps =>
        have rest := ih (by simp) fun p hp => hfree p (by simp [hp])
        rw [List.intercalate_cons_cons, List.append_assoc, List.singleton_append, split_append hp, rest]

theorem split_eq_three_iff {cs a b c : List Char} :
    split sep cs = [a, b, c] ↔
      cs = a ++ sep :: b ++ sep :: c ∧ sep ∉ a ∧ sep ∉ b ∧ sep ∉ c := by
  rw [split_eq_iff]
  simp only [List.mem_cons, List.not_mem_nil, or_false, forall_eq_or_imp, forall_eq, ne_eq,
    reduceCtorEq, not_false_eq_true, true_and, List.intercalate, List.intersperse, List.flatten_cons,
    List.flatten_nil, List.append_nil, List.cons_append, List.nil_append, List.append_assoc]
  exact and_comm

/-- A text is cut at its first separator. -/
theorem splitOnce_eq_some_iff {cs a b : List Char} :
    splitOnce sep cs = some (a, b) ↔ cs = a ++ sep :: b ∧ sep ∉ a := by
  constructor
  · intro h
    induction cs generalizing a with
    | nil => cases h
    | cons c cs ih =>
      simp only [splitOnce] at h
      split at h
      · rename_i hc
        cases h
        simp [hc]
      · rename_i hc
        obtain ⟨⟨x, y⟩, hxy, he⟩ := Option.map_eq_some_iff.mp h
        cases he
        obtain ⟨rfl, hx⟩ := ih hxy
        exact ⟨rfl, by simp [Ne.symm hc, hx]⟩
  · rintro ⟨rfl, h⟩
    exact splitOnce_append h

end Gatehouse.Text
