import Mathlib.Tactic.IntervalCases
import Gatehouse.Time.Calendar

/-!
Dates and days are counted alike in both directions.

* `toDays_ofDays`: the date of a day is that day.
* `exists_ofDays`: and it exists.
-/

namespace Gatehouse.Calendar

/-! ### Years of an era -/

/-- A day of an era lies in one of four centuries, in one of their 25 periods of four years, and in one
of their years. Only the last year of a period has 366 days, and not at the end of a century unless it
is the last one. -/
theorem exists_parts {doe : Int} (low : 0 ≤ doe) (high : doe < eraDays) :
    ∃ a b k d : Int, doe = 36524 * a + 1461 * b + 365 * k + d ∧ 0 ≤ a ∧ a ≤ 3 ∧ 0 ≤ b ∧ b ≤ 24 ∧
      0 ≤ k ∧ k ≤ 3 ∧ 0 ≤ d ∧ (d ≤ 364 ∨ d = 365 ∧ k = 3 ∧ (b ≤ 23 ∨ a = 3)) := by
  unfold eraDays at high
  refine ⟨min (doe / 36524) 3, (doe - 36524 * min (doe / 36524) 3) / 1461,
    min ((doe - 36524 * min (doe / 36524) 3) % 1461 / 365) 3,
    (doe - 36524 * min (doe / 36524) 3) % 1461 -
      365 * min ((doe - 36524 * min (doe / 36524) 3) % 1461 / 365) 3, ?_⟩
  omega

/-- The year of a day of an era, as it is computed. -/
theorem year_of_parts {doe a b k d : Int} (sum : doe = 36524 * a + 1461 * b + 365 * k + d)
    (ha : 0 ≤ a) (ha' : a ≤ 3) (hb : 0 ≤ b) (hb' : b ≤ 24) (hk : 0 ≤ k) (hk' : k ≤ 3) (hd : 0 ≤ d)
    (hd' : d ≤ 364 ∨ d = 365 ∧ k = 3 ∧ (b ≤ 23 ∨ a = 3)) :
    (doe - doe / 1460 + doe / 36524 - doe / 146096) / 365 = 100 * a + 4 * b + k := by
  -- Each quotient misses its count by one on few days only.
  have eras : doe / 146096 = if doe = 146096 then 1 else 0 := by split <;> omega
  have centuries : doe / 36524 = a + if doe = 146096 then 1 else 0 := by split <;> omega
  have periods : doe / 1460 = 25 * a + b + if 1460 ≤ 24 * a + b + 365 * k + d then 1 else 0 := by
    split <;> omega
  rw [eras, centuries, periods]
  split <;> split <;> omega

/-- **The year of a day of an era** and the day of that year, counted from March. -/
theorem exists_year {doe : Int} (low : 0 ≤ doe) (high : doe < eraDays) :
    ∃ y doy : Int, (doe - doe / 1460 + doe / 36524 - doe / 146096) / 365 = y ∧
      doe = 365 * y + y / 4 - y / 100 + doy ∧ 0 ≤ y ∧ y ≤ 399 ∧ 0 ≤ doy ∧ doy ≤ 365 ∧
      (doy = 365 → (y + 1) % 4 = 0 ∧ ((y + 1) % 100 ≠ 0 ∨ (y + 1) % 400 = 0)) := by
  obtain ⟨a, b, k, d, sum, ha, ha', hb, hb', hk, hk', hd, hd'⟩ := exists_parts low high
  refine ⟨100 * a + 4 * b + k, d, year_of_parts sum ha ha' hb hb' hk hk' hd hd', ?_⟩
  omega

/-! ### Months of a year -/

/-- The months of a year that begins in March, as they are computed from a day of the year. -/
theorem month_of_day {doy mp day : Int} (low : 0 ≤ doy) (high : doy ≤ 365)
    (hmp : mp = (5 * doy + 2) / 153) (hday : day = doy - (153 * mp + 2) / 5 + 1) :
    0 ≤ mp ∧ mp ≤ 11 ∧ 1 ≤ day ∧ day ≤ 31 := by
  omega

/-- No month has more days than it has, and in the last one there are 29 at most. -/
theorem day_le_daysIn {y doy mp day : Int} (low : 0 ≤ doy) (high : doy ≤ 365)
    (hmp : mp = (5 * doy + 2) / 153) (hday : day = doy - (153 * mp + 2) / 5 + 1)
    (leap : doy = 365 → isLeap (y + 1) = true) :
    day ≤ daysIn (if mp < 10 then y else y + 1) (if mp < 10 then mp + 3 else mp - 9).toNat := by
  obtain ⟨hmp0, hmp11, -, -⟩ := month_of_day low high hmp hday
  by_cases february : mp = 11
  · subst february
    cases h : isLeap (y + 1) with
    | true =>
      simp [daysIn, h]
      omega
    | false =>
      have short : doy ≠ 365 := fun last => by simp [leap last] at h
      simp [daysIn, h]
      omega
  · interval_cases mp <;> simp [daysIn] at february ⊢ <;> omega

/-! ### Dates -/

/-- The parts of a date, as they are computed from its day. -/
theorem ofDays_parts (n : Int) :
    ∃ era y doy mp day : Int, n + epochDays = era * eraDays + (365 * y + y / 4 - y / 100 + doy) ∧
      0 ≤ y ∧ y ≤ 399 ∧ 0 ≤ doy ∧ doy ≤ 365 ∧ mp = (5 * doy + 2) / 153 ∧
      day = doy - (153 * mp + 2) / 5 + 1 ∧ (doy = 365 → isLeap (y + era * 400 + 1) = true) ∧
      Date.ofDays n = ⟨if mp < 10 then y + era * 400 else y + era * 400 + 1,
        (if mp < 10 then mp + 3 else mp - 9).toNat, day.toNat⟩ := by
  have low : 0 ≤ n + epochDays - (n + epochDays) / eraDays * eraDays := by
    unfold eraDays
    omega
  have high : n + epochDays - (n + epochDays) / eraDays * eraDays < eraDays := by
    unfold eraDays
    omega
  obtain ⟨y, doy, hy, sum, hy0, hy399, hd0, hd365, leap⟩ := exists_year low high
  have hmp : 0 ≤ (5 * doy + 2) / 153 ∧ (5 * doy + 2) / 153 ≤ 11 := by omega
  refine ⟨(n + epochDays) / eraDays, y, doy, (5 * doy + 2) / 153,
    doy - (153 * ((5 * doy + 2) / 153) + 2) / 5 + 1, by omega, hy0, hy399, hd0, hd365, rfl, rfl,
    fun last => ?_, ?_⟩
  · simp only [isLeap, Bool.and_eq_true, Bool.or_eq_true, beq_iff_eq, bne_iff_ne, ne_eq]
    have := leap last
    omega
  · have day : n + epochDays - (n + epochDays) / eraDays * eraDays - (365 * y + y / 4 - y / 100) = doy := by
      omega
    simp only [Date.ofDays, hy, day]
    congr 1
    split <;> split <;> omega

/-- **The date of a day is that day.** -/
theorem toDays_ofDays (n : Int) : (Date.ofDays n).toDays = n := by
  obtain ⟨era, y, doy, mp, day, sum, hy0, hy399, hd0, hd365, hmp, hday, -, date⟩ := ofDays_parts n
  obtain ⟨hmp0, hmp11, hday1, -⟩ := month_of_day hd0 hd365 hmp hday
  rw [date]
  unfold epochDays eraDays at sum
  have year : (if (if mp < 10 then mp + 3 else mp - 9).toNat ≤ 2 then
      (if mp < 10 then y + era * 400 else y + era * 400 + 1) - 1
      else if mp < 10 then y + era * 400 else y + era * 400 + 1) = y + era * 400 := by
    split <;> split <;> omega
  have month : (((if mp < 10 then mp + 3 else mp - 9).toNat : Int) + 9) % 12 = mp := by
    split <;> omega
  have number : (y + era * 400) / 400 = era := by omega
  simp only [Date.toDays, year, month, number, epochDays, eraDays]
  omega

/-- **The date of a day exists.** -/
theorem exists_ofDays (n : Int) : (Date.ofDays n).exists = true := by
  obtain ⟨era, y, doy, mp, day, sum, hy0, hy399, hd0, hd365, hmp, hday, leap, date⟩ := ofDays_parts n
  obtain ⟨-, -, hday1, -⟩ := month_of_day hd0 hd365 hmp hday
  have inMonth := day_le_daysIn hd0 hd365 hmp hday leap
  rw [date, Date.exists, Bool.and_eq_true, decide_eq_true_eq, decide_eq_true_eq]
  dsimp only
  omega

/-- A date that exists has one of twelve months and 31 days at most. -/
theorem le_of_exists {d : Date} (h : d.exists = true) : d.month ≤ 12 ∧ d.day ≤ 31 := by
  simp only [Date.exists, Bool.and_eq_true, decide_eq_true_eq] at h
  have known : daysIn d.year d.month ≤ 31 ∧ (0 < daysIn d.year d.month → d.month ≤ 12) := by
    unfold daysIn
    split
    case h_12 => split <;> omega
    all_goals omega
  omega

/-- The days that lie in a span of years are those whose dates have these years. -/
theorem year_ofDays_bounds {n : Int} (low : Date.toDays ⟨-262143, 1, 1⟩ ≤ n)
    (high : n ≤ Date.toDays ⟨262142, 12, 31⟩) :
    -262143 ≤ (Date.ofDays n).year ∧ (Date.ofDays n).year ≤ 262142 := by
  obtain ⟨era, y, doy, mp, day, sum, hy0, hy399, hd0, hd365, hmp, hday, -, date⟩ := ofDays_parts n
  have first : Date.toDays ⟨-262143, 1, 1⟩ = -96465292 := by decide
  have last : Date.toDays ⟨262142, 12, 31⟩ = 95026236 := by decide
  rw [first] at low
  rw [last] at high
  unfold epochDays eraDays at sum
  have lowEra : -656 ≤ era := by omega
  have highEra : era ≤ 655 := by omega
  rw [date]
  dsimp only
  split
  · next early =>
    have early : doy ≤ 305 := by omega
    clear hmp hday
    refine ⟨?_, by omega⟩
    -- An earlier year would lie in the first era, before its last years.
    by_contra before
    obtain rfl : era = -656 := by omega
    omega
  · next late =>
    have late : 306 ≤ doy := by omega
    clear hmp hday
    refine ⟨by omega, ?_⟩
    by_contra after
    obtain rfl : era = 655 := by omega
    omega

end Gatehouse.Calendar
