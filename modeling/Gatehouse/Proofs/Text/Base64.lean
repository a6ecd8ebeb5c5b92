import Gatehouse.Text.Base64

/-!
Base64 is a bijection between byte strings and canonical texts.

* `decodeChars?_encodeChars`: reading undoes writing, in every dialect whose two extra digits cannot
  be taken for anything else (`Lawful`).
* `decodeChars?_eq_some_iff`: a text is read as `b` iff it is the written form of `b`. So padding,
  bits left over, foreign characters and impossible lengths are all refused, and no byte string has
  two texts (`encodeChars_injective`).
* `mem_encodeChars`: written text holds nothing but digits and padding. So a character that is no digit does
  not occur in unpadded text (`separator_not_mem`), and what does occur is visible (`visible_of_mem`).
-/

namespace Gatehouse.Text.Base64

variable {d : Base64}

/-! ### Digits -/

/-- A dialect whose two extra digits are neither letters nor decimal digits nor padding, and differ
from each other. -/
structure Lawful (d : Base64) : Prop where
  value_plus : d.value? d.plus = some 62
  value_slash : d.value? d.slash = some 63
  value_equals : d.value? '=' = none

theorem lawful_url : url.Lawful := ⟨by decide, by decide, by decide⟩

theorem lawful_standard : standard.Lawful := ⟨by decide, by decide, by decide⟩

theorem lawful_bare : bare.Lawful := ⟨by decide, by decide, by decide⟩

/-- All dialects share the first 62 digits. -/
theorem digit_eq_url {v : Nat} (hv : v < 62) : d.digit v = url.digit v := by
  unfold digit
  simp only [hv, if_true]

theorem value?_eq_of_url {c : Char} {v : Nat} (h : url.value? c = some v) (hv : v < 62) :
    d.value? c = some v := by
  unfold value? at h ⊢
  split at h
  · rw [if_pos ‹_›]; exact h
  · rw [if_neg ‹_›]
    split at h
    · rw [if_pos ‹_›]; exact h
    · rw [if_neg ‹_›]
      split at h
      · rw [if_pos ‹_›]; exact h
      · -- What is left are the extra digits of `url`, whose values are too large.
        split at h
        · cases h; omega
        · split at h
          · cases h; omega
          · cases h

theorem value?_digit (hd : d.Lawful) {v : Nat} (hv : v < 64) : d.value? (d.digit v) = some v := by
  by_cases h62 : v < 62
  · have first : ∀ v : Fin 62, url.value? (url.digit v) = some v.val := by decide
    rw [digit_eq_url h62]
    exact value?_eq_of_url (first ⟨v, h62⟩) h62
  · obtain rfl | rfl : v = 62 ∨ v = 63 := by omega
    · exact hd.value_plus
    · exact hd.value_slash

theorem digit_ne_equals (hd : d.Lawful) {v : Nat} (hv : v < 64) : d.digit v ≠ '=' := by
  intro h
  have := value?_digit hd hv
  rw [h, hd.value_equals] at this
  cases this

/-! ### Reading what was written -/

theorem values?_digit_cons (hd : d.Lawful) {v : Nat} (hv : v < 64) (cs : List Char) :
    d.values? (d.digit v :: cs) = (d.values? cs).map (v :: ·) := by
  simp [values?, digit_ne_equals hd hv, value?_digit hd hv]

/-- Padding holds no value. -/
theorem values?_padding (n : Nat) : d.values? (d.padding n) = some [] := by
  unfold padding
  split
  · rename_i hp
    cases n with
    | zero => rfl
    | succ n => simp [List.replicate_succ, values?, hp]
  · rfl

theorem digits_bounds (a b : UInt8) :
    a.toNat / 4 < 64 ∧ a.toNat % 4 * 16 + b.toNat / 16 < 64 ∧ a.toNat % 4 * 16 < 64 ∧
      a.toNat % 16 * 4 + b.toNat / 64 < 64 ∧ a.toNat % 16 * 4 < 64 ∧ a.toNat % 64 < 64 := by
  have ha := a.toNat_lt
  have hb := b.toNat_lt
  omega

/-- The values of a written text spell what was written. -/
theorem values?_encodeChars (hd : d.Lawful) (b : Bytes) :
    ∃ vs, d.values? (d.encodeChars b) = some vs ∧ ofValues vs = b := by
  fun_induction encodeChars d b with
  | case1 => exact ⟨[], rfl, rfl⟩
  | case2 a =>
    obtain ⟨h₁, -, h₂, -⟩ := digits_bounds a a
    refine ⟨[a.toNat / 4, a.toNat % 4 * 16], ?_, ?_⟩
    · rw [List.cons_append, List.cons_append, List.nil_append, values?_digit_cons hd h₁,
        values?_digit_cons hd h₂, values?_padding]
      rfl
    · have : a.toNat / 4 * 4 + a.toNat % 4 * 16 / 16 = a.toNat := by omega
      simp only [ofValues, this, UInt8.ofNat_toNat]
  | case3 a b =>
    obtain ⟨h₁, h₂, -⟩ := digits_bounds a b
    obtain ⟨-, -, -, -, h₃, -⟩ := digits_bounds b b
    refine ⟨[a.toNat / 4, a.toNat % 4 * 16 + b.toNat / 16, b.toNat % 16 * 4], ?_, ?_⟩
    · rw [List.cons_append, List.cons_append, List.cons_append, List.nil_append,
        values?_digit_cons hd h₁, values?_digit_cons hd h₂, values?_digit_cons hd h₃,
        values?_padding]
      rfl
    · have hb := b.toNat_lt
      have e₁ : a.toNat / 4 * 4 + (a.toNat % 4 * 16 + b.toNat / 16) / 16 = a.toNat := by omega
      have e₂ : (a.toNat % 4 * 16 + b.toNat / 16) % 16 * 16 + b.toNat % 16 * 4 / 4 = b.toNat := by
        omega
      simp only [ofValues, e₁, e₂, UInt8.ofNat_toNat]
  | case4 a b c r ih =>
    obtain ⟨vs, hvs, hr⟩ := ih
    obtain ⟨h₁, h₂, -⟩ := digits_bounds a b
    obtain ⟨-, -, -, h₃, -, -⟩ := digits_bounds b c
    obtain ⟨-, -, -, -, -, h₄⟩ := digits_bounds c c
    refine ⟨a.toNat / 4 :: (a.toNat % 4 * 16 + b.toNat / 16) ::
      (b.toNat % 16 * 4 + c.toNat / 64) :: c.toNat % 64 :: vs, ?_, ?_⟩
    · rw [values?_digit_cons hd h₁, values?_digit_cons hd h₂, values?_digit_cons hd h₃,
        values?_digit_cons hd h₄, hvs]
      rfl
    · have hb := b.toNat_lt
      have hc := c.toNat_lt
      have e₁ : a.toNat / 4 * 4 + (a.toNat % 4 * 16 + b.toNat / 16) / 16 = a.toNat := by omega
      have e₂ : (a.toNat % 4 * 16 + b.toNat / 16) % 16 * 16 +
          (b.toNat % 16 * 4 + c.toNat / 64) / 4 = b.toNat := by omega
      have e₃ : (b.toNat % 16 * 4 + c.toNat / 64) % 4 * 64 + c.toNat % 64 = c.toNat := by omega
      simp only [ofValues, e₁, e₂, e₃, hr, UInt8.ofNat_toNat]

/-- Reading undoes writing. -/
theorem decodeChars?_encodeChars (hd : d.Lawful) (b : Bytes) :
    d.decodeChars? (d.encodeChars b) = some b := by
  obtain ⟨vs, hvs, rfl⟩ := values?_encodeChars hd b
  simp [decodeChars?, hvs]

/-- **Only canonical text is read.** A text stands for `b` iff it is the written form of `b`. -/
theorem decodeChars?_eq_some_iff (hd : d.Lawful) {cs : List Char} {b : Bytes} :
    d.decodeChars? cs = some b ↔ cs = d.encodeChars b :=
  ⟨d.eq_encodeChars_of_decodeChars?, fun h => h ▸ decodeChars?_encodeChars hd b⟩

theorem encodeChars_injective (hd : d.Lawful) {a b : Bytes}
    (h : d.encodeChars a = d.encodeChars b) : a = b := by
  have := decodeChars?_encodeChars hd a
  rw [h, decodeChars?_encodeChars hd b] at this
  exact (Option.some.inj this).symm

/-! ### The characters of written text -/

theorem length_encodeChars (hp : d.padded = false) (b : Bytes) :
    (d.encodeChars b).length = (4 * b.length + 2) / 3 := by
  have none (n : Nat) : d.padding n = [] := by simp [padding, hp]
  fun_induction encodeChars d b with
  | case1 => rfl
  | case2 a => simp [none]
  | case3 a b => simp [none]
  | case4 a b c r ih =>
    simp only [List.length_cons, ih]
    omega

theorem mem_padding {n : Nat} {c : Char} (mem : c ∈ d.padding n) : d.padded = true ∧ c = '=' := by
  unfold padding at mem
  split at mem
  · next padded => exact ⟨padded, List.eq_of_mem_replicate mem⟩
  · cases mem

/-- Nothing but digits and padding is written. -/
theorem mem_encodeChars {b : Bytes} {c : Char} (mem : c ∈ d.encodeChars b) :
    (d.padded = true ∧ c = '=') ∨ ∃ v < 64, c = d.digit v := by
  fun_induction encodeChars d b with
  | case1 => cases mem
  | case2 a =>
    obtain ⟨h₁, -, h₂, -⟩ := digits_bounds a a
    rcases List.mem_append.mp mem with mem | mem
    · simp only [List.mem_cons, List.not_mem_nil, or_false] at mem
      rcases mem with rfl | rfl
      · exact .inr ⟨_, h₁, rfl⟩
      · exact .inr ⟨_, h₂, rfl⟩
    · exact .inl (mem_padding mem)
  | case3 a b =>
    obtain ⟨h₁, h₂, -⟩ := digits_bounds a b
    obtain ⟨-, -, -, -, h₃, -⟩ := digits_bounds b b
    rcases List.mem_append.mp mem with mem | mem
    · simp only [List.mem_cons, List.not_mem_nil, or_false] at mem
      rcases mem with rfl | rfl | rfl
      · exact .inr ⟨_, h₁, rfl⟩
      · exact .inr ⟨_, h₂, rfl⟩
      · exact .inr ⟨_, h₃, rfl⟩
    · exact .inl (mem_padding mem)
  | case4 a b c' r ih =>
    obtain ⟨h₁, h₂, -⟩ := digits_bounds a b
    obtain ⟨-, -, -, h₃, -, -⟩ := digits_bounds b c'
    obtain ⟨-, -, -, -, -, h₄⟩ := digits_bounds c' c'
    simp only [List.mem_cons] at mem
    rcases mem with rfl | rfl | rfl | rfl | mem
    · exact .inr ⟨_, h₁, rfl⟩
    · exact .inr ⟨_, h₂, rfl⟩
    · exact .inr ⟨_, h₃, rfl⟩
    · exact .inr ⟨_, h₄, rfl⟩
    · exact ih mem

/-- What stands in unpadded text is a digit. -/
theorem value?_isSome_of_mem (hd : d.Lawful) (hp : d.padded = false) {b : Bytes} {c : Char}
    (hc : c ∈ d.encodeChars b) : (d.value? c).isSome := by
  rcases mem_encodeChars hc with ⟨padded, -⟩ | ⟨v, small, rfl⟩
  · exact absurd (hp.symm.trans padded) Bool.false_ne_true
  · rw [value?_digit hd small]
    rfl

theorem separator_not_mem (hd : d.Lawful) (hp : d.padded = false) {sep : Char}
    (hs : d.value? sep = none) (b : Bytes) : sep ∉ d.encodeChars b := by
  intro h
  have := value?_isSome_of_mem hd hp h
  rw [hs] at this
  cases this

/-- Text is visible ASCII, if the digits of its dialect are. -/
theorem visible_of_mem {b : Bytes} {c : Char}
    (digits : ∀ v : Fin 64, 0x21 ≤ (d.digit v).toNat ∧ (d.digit v).toNat ≤ 0x7e)
    (hc : c ∈ d.encodeChars b) : 0x21 ≤ c.toNat ∧ c.toNat ≤ 0x7e := by
  rcases mem_encodeChars hc with ⟨-, rfl⟩ | ⟨v, small, rfl⟩
  · decide
  · exact digits ⟨v, small⟩

/-- Text in the dialect of tokens is visible ASCII. -/
theorem visible_of_mem_url {b : Bytes} {c : Char} (hc : c ∈ url.encodeChars b) :
    0x21 ≤ c.toNat ∧ c.toNat ≤ 0x7e :=
  visible_of_mem (by decide) hc

/-- So is text in the dialect of basic credentials. -/
theorem visible_of_mem_standard {b : Bytes} {c : Char} (hc : c ∈ standard.encodeChars b) :
    0x21 ≤ c.toNat ∧ c.toNat ≤ 0x7e :=
  visible_of_mem (by decide) hc

end Gatehouse.Text.Base64
