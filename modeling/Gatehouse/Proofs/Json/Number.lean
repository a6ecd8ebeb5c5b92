import Gatehouse.Json.Record

/-!
Whole numbers survive their JSON text.

* `numberTail_digits`: the decimal digits of a number of 64 bits are read as that number.
* `readWhole_number`: so a written number is read back, whatever follows it, as long as that cannot
  go on with the number (`Ends`).
-/

namespace Gatehouse.Json

/-! ### What may follow a value -/

/-- What follows a value inside of another one, or nothing. No such byte can belong to a number. -/
def Ends : Bytes → Prop
  | [] => True
  | b :: _ => b = 0x2c ∨ b = 0x5d ∨ b = 0x7d

theorem ends_comma (s : Bytes) : Ends (0x2c :: s) := Or.inl rfl

theorem ends_brace (s : Bytes) : Ends (0x7d :: s) := Or.inr (Or.inr rfl)

/-! ### Digits -/

/-- The decimal digits of a number, as bytes. -/
def digitBytes (n : Nat) : Bytes := (Nat.toDigits 10 n).map Bytes.byte

theorem digitChar_spec {d : Nat} (h : d < 10) :
    isDigit (Bytes.byte d.digitChar) = true ∧ digitValue (Bytes.byte d.digitChar) = d := by
  have all : ∀ d : Fin 10, isDigit (Bytes.byte d.val.digitChar) = true ∧
      digitValue (Bytes.byte d.val.digitChar) = d.val := by decide
  exact all ⟨d, h⟩

/-- A number of several digits is a smaller number and one digit more. -/
theorem digitBytes_of_le {n : Nat} (h : 10 ≤ n) :
    digitBytes n = digitBytes (n / 10) ++ [Bytes.byte (n % 10).digitChar] := by
  rw [digitBytes, Nat.toDigits_of_base_le (by decide) h]
  simp [digitBytes]

theorem digitBytes_of_lt {n : Nat} (h : n < 10) : digitBytes n = [Bytes.byte n.digitChar] := by
  rw [digitBytes, Nat.toDigits_of_lt_base h]
  rfl

theorem isDigit_of_mem_digitBytes {n : Nat} {b : UInt8} (h : b ∈ digitBytes n) :
    isDigit b = true := by
  induction n using Nat.strongRecOn with
  | ind n ih =>
    by_cases hn : n < 10
    · rw [digitBytes_of_lt hn, List.mem_singleton] at h
      exact h ▸ (digitChar_spec hn).1
    · rw [digitBytes_of_le (Nat.le_of_not_lt hn)] at h
      rcases List.mem_append.mp h with h | h
      · exact ih (n / 10) (by omega) h
      · rw [List.mem_singleton] at h
        exact h ▸ (digitChar_spec (Nat.mod_lt n (by decide))).1

/-- The first digit of a number is zero only if there is no other digit. -/
theorem digitBytes_eq_cons (n : Nat) :
    ∃ b r, digitBytes n = b :: r ∧ (b = 0x30 → r = []) := by
  induction n using Nat.strongRecOn with
  | ind n ih =>
    by_cases hn : n < 10
    · exact ⟨_, [], digitBytes_of_lt hn, fun _ => rfl⟩
    · obtain ⟨b, r, hr, hz⟩ := ih (n / 10) (by omega)
      refine ⟨b, r ++ [Bytes.byte (n % 10).digitChar], ?_, ?_⟩
      · rw [digitBytes_of_le (Nat.le_of_not_lt hn), hr, List.cons_append]
      · intro hb
        -- A single zero in front would make the number `n / 10` zero.
        exfalso
        have : n / 10 < 10 ∨ 10 ≤ n / 10 := by omega
        rcases this with h | h
        · rw [digitBytes_of_lt h] at hr
          have hv := (digitChar_spec h).2
          rw [(List.cons.inj hr).1, hb] at hv
          have : digitValue 0x30 = 0 := rfl
          omega
        · rw [digitBytes_of_le h, hz hb] at hr
          have := congrArg List.length hr
          obtain ⟨c, t, hc, -⟩ := ih (n / 10 / 10) (by omega)
          simp [hc] at this

/-- Digits are counted up to the number that they spell. -/
theorem foldl_wholeDigit_digitBytes {n : Nat} (h : n ≤ maxWord) :
    (digitBytes n).foldl wholeDigit (0, 0) = (n, 0) := by
  induction n using Nat.strongRecOn with
  | ind n ih =>
    by_cases hn : n < 10
    · rw [digitBytes_of_lt hn]
      simp [wholeDigit, (digitChar_spec hn).2, h]
    · have hd := digitChar_spec (Nat.mod_lt n (show 0 < 10 by decide))
      have e : n / 10 * 10 + n % 10 = n := by omega
      rw [digitBytes_of_le (Nat.le_of_not_lt hn), List.foldl_append,
        ih (n / 10) (by omega) (by omega)]
      simp [wholeDigit, hd.2, e, h]

/-! ### Numbers -/

theorem not_isDigit_of_ends {s : Bytes} (h : Ends s) : s.takeWhile isDigit = [] := by
  cases s with
  | nil => rfl
  | cons b r => rcases h with rfl | rfl | rfl <;> rfl

/-- The digits of a number are read as that number. -/
theorem numberTail_digits (negative : Bool) {n : Nat} (hn : n ≤ maxWord) {s : Bytes} (hs : Ends s) :
    numberTail negative (digitBytes n ++ s) = .ok (signedWord negative n, s) := by
  obtain ⟨b, r, hbr, hz⟩ := digitBytes_eq_cons n
  have digits : ∀ x ∈ digitBytes n, isDigit x = true := fun x hx => isDigit_of_mem_digitBytes hx
  have hb : isDigit b = true := digits b (by simp [hbr])
  have run : (digitBytes n ++ s).takeWhile isDigit = digitBytes n := by
    rw [List.takeWhile_append_of_pos digits, not_isDigit_of_ends hs, List.append_nil]
  have lead : ¬ (b = 0x30 ∧ (r ++ s).head?.any isDigit = true) := by
    rintro ⟨h0, h1⟩
    rw [hz h0, List.nil_append] at h1
    cases s with
    | nil => simp at h1
    | cons c t => rcases hs with rfl | rfl | rfl <;> simp [isDigit] at h1
  have counted := foldl_wholeDigit_digitBytes hn
  rw [hbr] at run counted
  rw [hbr, List.cons_append] at *
  unfold numberTail
  simp only [hb, Bool.not_true, Bool.false_eq_true, if_false, if_neg lead, run, counted]
  rw [List.length_cons, List.drop_succ_cons, List.drop_left]
  cases s with
  | nil => rfl
  | cons c t => rcases hs with rfl | rfl | rfl <;> rfl

theorem number_eq (n : Int) :
    number n = if n < 0 then 0x2d :: digitBytes n.natAbs else digitBytes n.natAbs := rfl

/-- **A written number is read back.** -/
theorem readWhole_number {n : Int} (low : -0x8000000000000000 ≤ n) (high : n ≤ maxWord) {s : Bytes}
    (hs : Ends s) : readWhole (number n ++ s) = .ok (n, s) := by
  rw [number_eq]
  by_cases hneg : n < 0
  · have word : n.natAbs ≤ maxWord := by unfold maxWord; omega
    have whole : signedWord true n.natAbs = .whole n := by
      have : 0 < n.natAbs ∧ n.natAbs ≤ 0x8000000000000000 := by omega
      simp only [signedWord, Bool.not_true, Bool.false_eq_true, if_false, if_pos this]
      congr 1
      omega
    simp [if_pos hneg, readWhole, readFrom, skipBlanks, isBlank, numberTail_digits true word hs,
      whole]
  · obtain ⟨b, r, hbr, -⟩ := digitBytes_eq_cons n.natAbs
    have word : n.natAbs ≤ maxWord := by omega
    have hb : isDigit b = true := isDigit_of_mem_digitBytes (n := n.natAbs) (by simp [hbr])
    have notBlank : isBlank b = false := by
      cases h : isBlank b with
      | false => rfl
      | true =>
        simp only [isBlank, Bool.or_eq_true, beq_iff_eq] at h
        rcases h with ((rfl | rfl) | rfl) | rfl <;> simp [isDigit] at hb
    have notMinus : ¬ b = 0x2d := by rintro rfl; simp [isDigit] at hb
    have whole : signedWord false n.natAbs = .whole n := by
      simp only [signedWord, Bool.not_false, if_true]
      congr 1
      omega
    have tail := numberTail_digits false word hs
    rw [if_neg hneg, hbr]
    rw [hbr] at tail
    simp only [List.cons_append] at tail ⊢
    simp [readWhole, readFrom, skipBlanks, notBlank, notMinus, hb, tail, whole]

end Gatehouse.Json
