import Gatehouse.Proofs.Time.Calendar
import Gatehouse.Time.Stamp

/-!
Instants survive their text.

* `digits_padLeft`: a number that is filled up to a width is read back.
* `parts?_chars`: the parts of a time are read from its text as they were written.
* `read?_write`: an instant is read back from its text.
-/

namespace Gatehouse.Stamp

open Duration (padLeft)

/-! ### Digits -/

theorem number_eq_ofDigitChars (ds : List Char) : number ds = Nat.ofDigitChars 10 ds 0 := by
  simp only [number, Nat.ofDigitChars, Nat.mul_comm]

/-- The characters of a number that is filled up. -/
theorem isDigit_of_mem_padLeft {w n : Nat} {c : Char} (hc : c ∈ padLeft w n) : c.isDigit = true := by
  rcases List.mem_append.mp hc with zero | digit
  · exact (List.mem_replicate.mp zero).2 ▸ by decide
  · exact Nat.isDigit_of_mem_toDigits (by decide) (by decide) digit

theorem padLeft_ne_nil (w n : Nat) : padLeft w n ≠ [] := by
  simp [padLeft, Nat.toDigits_ne_nil]

theorem length_padLeft {w n : Nat} (hw : 0 < w) (h : n < 10 ^ w) : (padLeft w n).length = w := by
  have := (Nat.length_toDigits_le_iff (by decide) hw).mpr h
  simp only [padLeft, List.length_append, List.length_replicate]
  omega

/-- What is filled up says the same number. -/
theorem number_padLeft (w n : Nat) : number (padLeft w n) = n := by
  have zeros (k : Nat) (ds : List Char) : number (List.replicate k '0' ++ ds) = number ds := by
    induction k with
    | zero => rfl
    | succ k ih => exact ih
  rw [padLeft, zeros, number_eq_ofDigitChars, Nat.ofDigitChars_toDigits (by decide) (by decide)]

/-- What is no digit ends a number. -/
def Stops : List Char → Prop
  | [] => True
  | c :: _ => c.isDigit = false

theorem takeWhile_padLeft (w n : Nat) {rest : List Char} (stops : Stops rest) :
    (padLeft w n ++ rest).takeWhile Char.isDigit = padLeft w n := by
  rw [List.takeWhile_append_of_pos fun _ => isDigit_of_mem_padLeft]
  cases rest with
  | nil => simp
  | cons c r => simp [show c.isDigit = false from stops]

theorem not_isBlank_of_isDigit {c : Char} (h : c.isDigit = true) : Text.isBlank c = false := by
  have all : ∀ k : Fin 10, Text.isBlank (Char.ofNat (48 + k)) = false := by decide
  obtain ⟨low, high⟩ : '0'.val.toNat ≤ c.val.toNat ∧ c.val.toNat ≤ '9'.val.toNat := by
    simpa only [Char.isDigit, Bool.and_eq_true, decide_eq_true_eq, ge_iff_le, UInt32.le_iff_toNat_le]
      using h
  replace low : 48 ≤ c.toNat := low
  replace high : c.toNat ≤ 57 := high
  have digit := all ⟨c.toNat - 48, by omega⟩
  rwa [show 48 + (c.toNat - 48) = c.toNat by omega, Char.ofNat_toNat] at digit

theorem dropWhile_padLeft (w n : Nat) (rest : List Char) :
    (padLeft w n ++ rest).dropWhile Text.isBlank = padLeft w n ++ rest := by
  obtain ⟨c, r, hr⟩ := List.exists_cons_of_ne_nil (padLeft_ne_nil w n)
  have digit : c.isDigit = true := isDigit_of_mem_padLeft (w := w) (n := n) (by simp [hr])
  rw [hr, List.cons_append, List.dropWhile_cons_of_neg (by simp [not_isBlank_of_isDigit digit])]

/-- **A number that is filled up to its width** is read back. -/
theorem digits_padLeft {w n : Nat} (hw : 0 < w) (h : n < 10 ^ w) {rest : List Char}
    (stops : Stops rest) : digits (some w) (padLeft w n ++ rest) = some (n, rest) := by
  have length := length_padLeft hw h
  have take : (padLeft w n).take w = padLeft w n := List.take_of_length_le (Nat.le_of_eq length)
  simp only [digits, dropWhile_padLeft, takeWhile_padLeft w n stops, take, number_padLeft,
    List.isEmpty_iff, padLeft_ne_nil, if_false, List.drop_left]

/-- A number is read back without a width, too. -/
theorem digits_none_padLeft (w n : Nat) {rest : List Char} (stops : Stops rest) :
    digits none (padLeft w n ++ rest) = some (n, rest) := by
  simp only [digits, dropWhile_padLeft, takeWhile_padLeft w n stops, number_padLeft,
    List.isEmpty_iff, padLeft_ne_nil, if_false, List.drop_left]

/-! ### Parts -/

theorem mark_cons {m : Char} (h : Text.isBlank m = false) (rest : List Char) :
    mark m (m :: rest) = some rest := by
  simp [mark, h]

/-- A year is read back. -/
theorem year_yearText (y : Int) {rest : List Char} (stops : Stops rest) :
    year (yearText y ++ rest) = some (y, rest) := by
  have run (n : Nat) : ((padLeft 4 n ++ rest).takeWhile Char.isDigit).isEmpty = false := by
    rw [takeWhile_padLeft 4 n stops]
    simp [padLeft_ne_nil]
  unfold yearText
  split
  · next four =>
    obtain ⟨c, r, hr⟩ := List.exists_cons_of_ne_nil (padLeft_ne_nil 4 y.toNat)
    have digit : c.isDigit = true := isDigit_of_mem_padLeft (w := 4) (n := y.toNat) (by simp [hr])
    have read := digits_padLeft (w := 4) (n := y.toNat) (by decide) (by omega) stops
    rw [year, dropWhile_padLeft]
    rw [hr, List.cons_append] at read ⊢
    split
    · next same => exact absurd digit ((List.cons.inj same).1 ▸ by decide)
    · next same => exact absurd digit ((List.cons.inj same).1 ▸ by decide)
    · rw [read]
      simp [Int.toNat_of_nonneg four.1]
  · next other =>
    by_cases negative : y < 0
    · have skip : ('-' :: padLeft 4 y.natAbs ++ rest).dropWhile Text.isBlank =
          '-' :: (padLeft 4 y.natAbs ++ rest) := rfl
      rw [if_pos negative, year, skip]
      simp only [run, digits_none_padLeft 4 _ stops, Bool.false_eq_true, if_false, Option.map_some]
      congr 2
      omega
    · have skip : ('+' :: padLeft 4 y.natAbs ++ rest).dropWhile Text.isBlank =
          '+' :: (padLeft 4 y.natAbs ++ rest) := rfl
      rw [if_neg negative, year, skip]
      simp only [run, digits_none_padLeft 4 _ stops, Bool.false_eq_true, if_false, Option.map_some]
      congr 2
      omega

/-- A fraction of a given number of places is read back. -/
theorem nanos_point {w n : Nat} (hw : 0 < w) (hw9 : w ≤ 9) (h : n < 10 ^ w) {rest : List Char}
    (stops : Stops rest) : nanos ('.' :: padLeft w n ++ rest) = some (n * 10 ^ (9 - w), rest) := by
  have length := length_padLeft hw h
  have take : (padLeft w n).take 9 = padLeft w n := List.take_of_length_le (by omega)
  simp only [nanos, List.cons_append, takeWhile_padLeft w n stops, take, number_padLeft, length,
    List.isEmpty_iff, padLeft_ne_nil, if_false]
  rw [List.drop_left' length]
  rfl

/-- **A fraction is read back**, with as many places as it needs. -/
theorem nanos_fraction {n : Nat} (h : n < 1000000000) (rest : List Char) :
    nanos (fraction n ++ 'Z' :: rest) = some (n, 'Z' :: rest) := by
  have stops : Stops ('Z' :: rest) := show 'Z'.isDigit = false by decide
  unfold fraction
  split
  · next zero => subst zero; rfl
  split
  · next three =>
    rw [nanos_point (by decide) (by decide) (by omega) stops]
    congr 2
    omega
  split
  · next six =>
    rw [nanos_point (by decide) (by decide) (by omega) stops]
    congr 2
    omega
  · rw [nanos_point (by decide) (by decide) (by omega) stops]
    simp

theorem stops_fraction (n : Nat) (rest : List Char) : Stops (fraction n ++ 'Z' :: rest) := by
  unfold fraction
  split
  · exact (by decide : 'Z'.isDigit = false)
  split
  · exact (by decide : '.'.isDigit = false)
  split <;> exact (by decide : '.'.isDigit = false)

/-! ### Times -/

/-- The parts of an instant as they are written: in UTC, with a leap second as the sixtieth one. -/
def partsOf (t : Instant) : Parts where
  date := Calendar.Date.ofDays (t.secs / 86400)
  hour := (t.secs % 86400).toNat / 3600
  minute := (t.secs % 86400).toNat / 60 % 60
  second := (t.secs % 86400).toNat % 60 + if 1000000000 ≤ t.nanos then 1 else 0
  nanos := if 1000000000 ≤ t.nanos then t.nanos - 1000000000 else t.nanos
  offset := 0

/-- All parts of an instant but its year and its fraction have two digits. -/
theorem partsOf_lt (t : Instant) : (partsOf t).date.month < 100 ∧ (partsOf t).date.day < 100 ∧
    (partsOf t).hour < 100 ∧ (partsOf t).minute < 100 ∧ (partsOf t).second < 100 ∧
    (partsOf t).nanos < 1000000000 := by
  obtain ⟨month, day⟩ := Calendar.le_of_exists (Calendar.exists_ofDays (t.secs / 86400))
  refine ⟨Nat.lt_of_le_of_lt month (by decide), Nat.lt_of_le_of_lt day (by decide), ?_, ?_, ?_, ?_⟩
  · simp only [partsOf]
    omega
  · simp only [partsOf]
    omega
  · simp only [partsOf]
    split <;> omega
  · have := t.nanos_lt
    simp only [partsOf]
    split <;> omega

/-- The text of an instant is that of its parts. -/
theorem chars_eq (t : Instant) : chars t = yearText (partsOf t).date.year ++ '-' ::
    (padLeft 2 (partsOf t).date.month ++ '-' :: (padLeft 2 (partsOf t).date.day ++ 'T' ::
      (padLeft 2 (partsOf t).hour ++ ':' :: (padLeft 2 (partsOf t).minute ++ ':' ::
        (padLeft 2 (partsOf t).second ++ (fraction (partsOf t).nanos ++ 'Z' :: [])))))) := by
  simp only [chars, partsOf, List.append_assoc, List.cons_append]

/-- A step that succeeds, and the steps after it. -/
theorem bind_eq_some {α β : Type} {x : Option α} {a : α} {f : α → Option β} {b : β} (first : x = some a)
    (rest : f a = some b) : (x >>= f) = some b :=
  Option.bind_eq_some_iff.mpr ⟨a, first, rest⟩

/-- **The parts of a time** are read from its text as they were written. -/
theorem parts?_chars (t : Instant) : parts? (chars t) = some (partsOf t) := by
  obtain ⟨month, day, hour, minute, second, small⟩ := partsOf_lt t
  have two {n : Nat} (h : n < 100) {c : Char} (hc : c.isDigit = false) (rest : List Char) :
      digits (some 2) (padLeft 2 n ++ c :: rest) = some (n, c :: rest) :=
    digits_padLeft (by decide) h hc
  have dash (rest : List Char) : Stops ('-' :: rest) := (by decide : '-'.isDigit = false)
  rw [chars_eq]
  -- Step by step, in the order of the reader.
  exact bind_eq_some (year_yearText _ (dash _)) <| bind_eq_some (mark_cons (by decide) _) <|
    bind_eq_some (two month (by decide) _) <| bind_eq_some (mark_cons (by decide) _) <|
    bind_eq_some (two day (by decide) _) <| bind_eq_some rfl <|
    bind_eq_some (two hour (by decide) _) <| bind_eq_some (mark_cons (by decide) _) <|
    bind_eq_some (two minute (by decide) _) <| bind_eq_some (mark_cons (by decide) _) <|
    bind_eq_some (digits_padLeft (by decide) second (stops_fraction _ [])) <|
    bind_eq_some (nanos_fraction small []) rfl

/-- The parts of an instant denote it. -/
theorem instant?_partsOf (t : Instant) : (partsOf t).instant? = some t := by
  obtain ⟨secs, nanos, lower, upper, small, leap⟩ := t
  have first : Instant.minSecs = Calendar.Date.toDays ⟨-262143, 1, 1⟩ * 86400 := rfl
  have last : Instant.maxSecs = Calendar.Date.toDays ⟨262142, 12, 31⟩ * 86400 + 86399 := rfl
  obtain ⟨early, late⟩ := Calendar.year_ofDays_bounds (n := secs / 86400)
    (by rw [first] at lower; omega) (by rw [last] at upper; omega)
  have day := Calendar.toDays_ofDays (secs / 86400)
  have real := Calendar.exists_ofDays (secs / 86400)
  obtain ⟨s, hs⟩ : ∃ s : Nat, secs % 86400 = s := Int.eq_ofNat_of_zero_le (by omega)
  have hours : s / 3600 < 24 := by omega
  have minutes : s / 60 % 60 < 60 := by omega
  have seconds : s % 60 < 60 := by omega
  have back : secs / 86400 * 86400 + ((s : Int) / 3600 * 3600 + (s : Int) / 60 % 60 * 60 + (s : Int) % 60) =
      secs := by omega
  have ofParts : Instant.ofParts? secs nanos = some ⟨secs, nanos, lower, upper, small, leap⟩ :=
    dif_pos ⟨lower, upper, small, leap⟩
  by_cases sixtieth : 1000000000 ≤ nanos
  · have last : (s : Int) % 60 = 59 := by
      have := leap sixtieth
      omega
    have last' : s % 60 = 59 := by omega
    rw [last] at back
    simp [Parts.instant?, partsOf, hs, sixtieth, real, early, late, hours, minutes, last', day, back, ofParts]
  · simp [Parts.instant?, partsOf, hs, sixtieth, real, early, late, hours, minutes, seconds.le, seconds.ne,
      day, back, ofParts]

/-- **An instant is read back from its text.** -/
theorem read?_write (t : Instant) : read? (write t) = some t := by
  rw [read?, write, String.toList_ofList, parts?_chars]
  exact instant?_partsOf t

end Gatehouse.Stamp
