import Mathlib.Data.List.TakeWhile
import Gatehouse.Text.Blank

/-!
Trimming takes the blanks away from both ends of a text.

* `dropWhile_eq_iff`, `dropEndWhile_eq_iff`: what is left when one end of a text is taken away.
* `trimChars_isEmpty`: nothing is left of blank texts, and of no others.
* `trimChars_eq_iff_edges`: a text that neither begins nor ends with a blank is what trimming leaves iff nothing but
  blanks stands around it. `trimChars_eq_iff` is the case of a text without blanks.
* `isBlank_of_visible`: a visible character of ASCII is no blank.
-/

namespace Gatehouse.Text

variable {p : Char → Bool} {cs mid : List Char}

/-- A visible character of ASCII is no blank. -/
theorem isBlank_of_visible {c : Char} (visible : 0x21 ≤ c.toNat ∧ c.toNat ≤ 0x7e) : isBlank c = false := by
  have code : c.val.toNat = c.toNat := rfl
  simp only [isBlank, blankRanges, List.any_cons, List.any_nil, Bool.or_false, Bool.or_eq_false_iff,
    Bool.and_eq_false_iff, decide_eq_false_iff_not, UInt32.le_iff_toNat_le, UInt32.reduceToNat, code]
  omega

/-! ### One end -/

/-- **What is left when the front of a text is taken away**: what was taken is accepted, and what is left begins
with what is refused. -/
theorem dropWhile_eq_iff :
    cs.dropWhile p = mid ↔
      ∃ lead, cs = lead ++ mid ∧ (∀ c ∈ lead, p c = true) ∧ ∀ c ∈ mid.head?, p c = false := by
  constructor
  · rintro rfl
    refine ⟨cs.takeWhile p, List.takeWhile_append_dropWhile.symm, fun c => List.mem_takeWhile_imp, ?_⟩
    intro c head
    have first := List.head?_dropWhile_not p cs
    rwa [Option.mem_def.mp head] at first
  · rintro ⟨lead, rfl, accepted, first⟩
    rw [List.dropWhile_append_of_pos accepted]
    cases mid with
    | nil => rfl
    | cons c mid => exact List.dropWhile_cons_of_neg (by simp [first c rfl])

/-- **The same for the end of a text.** -/
theorem dropEndWhile_eq_iff :
    dropEndWhile p cs = mid ↔
      ∃ trail, cs = mid ++ trail ∧ (∀ c ∈ trail, p c = true) ∧ ∀ c ∈ mid.getLast?, p c = false := by
  rw [dropEndWhile, List.reverse_eq_iff, dropWhile_eq_iff, List.head?_reverse]
  constructor
  · rintro ⟨lead, whole, accepted, last⟩
    refine ⟨lead.reverse, ?_, by simpa using accepted, last⟩
    rw [List.reverse_eq_iff.mp whole, List.reverse_append, List.reverse_reverse]
  · rintro ⟨trail, rfl, accepted, last⟩
    exact ⟨trail.reverse, List.reverse_append, by simpa using accepted, last⟩

/-! ### Both ends -/

/-- Trimming leaves nothing of blank texts, and of no others. -/
theorem trimChars_isEmpty : (trimChars cs).isEmpty = false ↔ ∃ c ∈ cs, isBlank c = false := by
  rw [Bool.eq_false_iff, ne_eq, List.isEmpty_iff, trimChars, dropEndWhile,
    List.reverse_eq_nil_iff, List.dropWhile_eq_nil_iff]
  simp only [List.mem_reverse, not_forall, Bool.not_eq_true, exists_prop]
  constructor
  · rintro ⟨c, mem, said⟩
    exact ⟨c, (List.dropWhile_sublist _).subset mem, said⟩
  · rintro ⟨c, mem, said⟩
    rw [← List.takeWhile_append_dropWhile (p := isBlank) (l := cs), List.mem_append] at mem
    rcases mem with mem | mem
    · exact absurd (List.mem_takeWhile_imp mem) (by simp [said])
    · exact ⟨c, mem, said⟩

/-- **What trimming leaves** neither begins nor ends with a blank, and is exactly what blanks stand around. -/
theorem trimChars_eq_iff_edges :
    trimChars cs = mid ↔ ∃ lead trail, cs = lead ++ mid ++ trail ∧ (∀ c ∈ lead ++ trail, isBlank c = true) ∧
      (∀ c ∈ mid.head?, isBlank c = false) ∧ ∀ c ∈ mid.getLast?, isBlank c = false := by
  rw [trimChars, dropEndWhile_eq_iff]
  constructor
  · rintro ⟨trail, rest, after, last⟩
    obtain ⟨lead, whole, before, first⟩ := dropWhile_eq_iff.mp rest
    refine ⟨lead, trail, by rw [whole, List.append_assoc], ?_, ?_, last⟩
    · intro c mem
      rcases List.mem_append.mp mem with mem | mem
      · exact before c mem
      · exact after c mem
    · intro c head
      exact first c (by rw [List.head?_append, Option.mem_def.mp head]; rfl)
  · rintro ⟨lead, trail, rfl, around, first, last⟩
    have before : ∀ c ∈ lead, isBlank c = true := fun c mem => around c (List.mem_append_left _ mem)
    have after : ∀ c ∈ trail, isBlank c = true := fun c mem => around c (List.mem_append_right _ mem)
    cases mid with
    | nil =>
      -- Of a text of blanks alone, the first cut leaves nothing.
      refine ⟨[], ?_, nofun, last⟩
      exact List.dropWhile_eq_nil_iff.mpr (by simpa using around)
    | cons c mid =>
      refine ⟨trail, dropWhile_eq_iff.mpr ⟨lead, List.append_assoc .., before, ?_⟩, after, last⟩
      exact fun c' head => first c' head

/-- **Trimming leaves a text without blanks** exactly of that text with blanks around it. -/
theorem trimChars_eq_iff (solid : ∀ c ∈ mid, isBlank c = false) :
    trimChars cs = mid ↔ ∃ lead trail, cs = lead ++ mid ++ trail ∧ ∀ c ∈ lead ++ trail, isBlank c = true := by
  have first : ∀ c ∈ mid.head?, isBlank c = false := fun c head => solid c (List.mem_of_mem_head? head)
  have last : ∀ c ∈ mid.getLast?, isBlank c = false := fun c final => solid c (List.mem_of_mem_getLast? final)
  simp only [trimChars_eq_iff_edges, and_iff_left (And.intro first last)]

end Gatehouse.Text
