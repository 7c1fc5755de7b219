import Mathlib
import SailSim.Time.Instant

/-!
# The civil calendar

`Civil.civilFromDays` names a date that exists, and `Civil.daysFromCivil` gives its day number
back:

* `Civil.civilFromDays_valid` : the month is 1 to 12 and the day 1 to the length of that month
  in the year named;
* `Civil.daysFromCivil_civilFromDays` : the date's day number is the one it was made from.

Both rest on where a day falls in its 400-year era. The era's years are counted from March, so
the `n`th one starts `yearStart n` days in and is a day longer when the calendar year after it
is a leap year. Every day of an era lies in one such year (`Civil.exists_yearOfEra`), and the
era's year formula finds that year (`Civil.yearOfEra_eq`): its three quotients, counting
four-year cycles, centuries and the era's last day, are worked out one at a time. What is left
is the day of a March-based year (`Civil.ofYearDay`), read month by month.
-/

namespace SailSim.Civil

/-- The day of its era on which the `n`th year of the era starts, years counted from March. -/
def yearStart (n : Int) : Int := 365 * n + n / 4 - n / 100 + n / 400

/-- The date of day `doy` (from 0) of the March-based year `y`: March to December of `y`, then
January and February of the year after. -/
def ofYearDay (y doy : Int) : Int × Nat × Nat :=
  let mp := (5 * doy + 2) / 153
  let d := doy - (153 * mp + 2) / 5 + 1
  let m := if mp < 10 then mp + 3 else mp - 9
  (if m ≤ 2 then y + 1 else y, m.toNat, d.toNat)

/-- Leap years in the terms of the year before. -/
theorem isLeap_succ_iff (n : Int) :
    isLeap (n + 1) = true ↔ n % 4 = 3 ∧ (n % 100 ≠ 99 ∨ n % 400 = 399) := by
  simp only [isLeap, Bool.and_eq_true, Bool.or_eq_true, beq_iff_eq, bne_iff_ne, ne_eq]
  omega

/-- Eras are whole cycles of leap years. -/
theorem isLeap_add_era (y e : Int) : isLeap (y + e * 400) = isLeap y := by
  rw [Bool.eq_iff_iff]
  simp only [isLeap, Bool.and_eq_true, Bool.or_eq_true, beq_iff_eq, bne_iff_ne, ne_eq]
  omega

/-- A year is 365 days, one more before a leap year. -/
theorem yearStart_succ (n : Int) :
    yearStart (n + 1) = yearStart n + 365 + if isLeap (n + 1) then 1 else 0 := by
  simp only [yearStart, isLeap_succ_iff]
  split_ifs <;> omega

/-- **The era's year formula** gives the year a day of the era falls in. -/
theorem yearOfEra_eq {n t : Int} (hn : 0 ≤ n) (hn' : n < 400) (ht : 0 ≤ t)
    (ht' : t < 365 + if isLeap (n + 1) then 1 else 0) :
    (yearStart n + t - (yearStart n + t) / 1460 + (yearStart n + t) / 36524 -
      (yearStart n + t) / 146096) / 365 = n := by
  simp only [isLeap_succ_iff] at ht'
  have h400 : n / 400 = 0 := by omega
  simp only [yearStart, h400, add_zero]
  -- only the era's last day reaches its length
  have q400 : (365 * n + n / 4 - n / 100 + t) / 146096 = if n = 399 ∧ t = 365 then 1 else 0 := by
    split_ifs at ht' ⊢ <;> omega
  have q100 : (365 * n + n / 4 - n / 100 + t) / 36524 =
      n / 100 + if n = 399 ∧ t = 365 then 1 else 0 := by
    split_ifs at ht' ⊢ <;> omega
  -- a four-year cycle's quotient runs a day ahead late in its last year
  have q4 : (365 * n + n / 4 - n / 100 + t) / 1460 =
      n / 4 + if n % 4 = 3 ∧ 365 ≤ t + n / 4 - n / 100 then 1 else 0 := by
    split_ifs at ht' ⊢ <;> omega
  rw [q400, q100, q4]
  split_ifs at ht' ⊢ <;> omega

/-- Every day of an era lies in one of its years. -/
theorem exists_yearOfEra {doe : Int} (h0 : 0 ≤ doe) (h1 : doe < 146097) :
    ∃ n t, 0 ≤ n ∧ n < 400 ∧ 0 ≤ t ∧ t < 365 + (if isLeap (n + 1) then 1 else 0) ∧
      doe = yearStart n + t := by
  classical
  -- the year is the first one whose successor starts after the day
  have hP : ∃ k : ℕ, doe < yearStart ((k : Int) + 1) := ⟨399, by simp [yearStart]; omega⟩
  obtain ⟨k, hk, hle, hmin⟩ : ∃ k : ℕ, doe < yearStart ((k : Int) + 1) ∧ k ≤ 399 ∧
      ∀ j < k, ¬ doe < yearStart ((j : Int) + 1) :=
    ⟨Nat.find hP, Nat.find_spec hP, Nat.find_min' hP (by simp [yearStart]; omega),
      fun j hj => Nat.find_min hP hj⟩
  have hstart : yearStart (k : Int) ≤ doe := by
    rcases Nat.eq_zero_or_pos k with rfl | h
    · simpa [yearStart] using h0
    · have hprev := hmin (k - 1) (by omega)
      rw [not_lt, Nat.cast_sub h, Nat.cast_one, sub_add_cancel] at hprev
      exact hprev
  rw [yearStart_succ] at hk
  exact ⟨k, doe - yearStart k, by positivity, by omega, by omega, by omega, by ring⟩

/-- The date of a day number: the day's era, its year in the era and its day in the year. -/
theorem civilFromDays_eq (z : Int) :
    ∃ e n t, 0 ≤ n ∧ n < 400 ∧ 0 ≤ t ∧ t < 365 + (if isLeap (n + e * 400 + 1) then 1 else 0) ∧
      z + 719468 = e * 146097 + yearStart n + t ∧ civilFromDays z = ofYearDay (n + e * 400) t := by
  obtain ⟨n, t, hn, hn', ht, ht', hdoe⟩ :=
    @exists_yearOfEra (z + 719468 - (z + 719468) / 146097 * 146097) (by omega) (by omega)
  have hdoy : yearStart n + t - (365 * n + n / 4 - n / 100) = t := by
    unfold yearStart
    omega
  refine ⟨(z + 719468) / 146097, n, t, hn, hn', ht, ?_, by omega, ?_⟩
  · rwa [add_right_comm, isLeap_add_era]
  · simp only [civilFromDays, hdoe, yearOfEra_eq hn hn' ht ht', hdoy, ofYearDay]

/-- The month of each day of a year. -/
theorem monthIndex_cases {t : Int} (h0 : 0 ≤ t) (h1 : t < 366) :
    (5 * t + 2) / 153 = 0 ∨ (5 * t + 2) / 153 = 1 ∨ (5 * t + 2) / 153 = 2 ∨
      (5 * t + 2) / 153 = 3 ∨ (5 * t + 2) / 153 = 4 ∨ (5 * t + 2) / 153 = 5 ∨
      (5 * t + 2) / 153 = 6 ∨ (5 * t + 2) / 153 = 7 ∨ (5 * t + 2) / 153 = 8 ∨
      (5 * t + 2) / 153 = 9 ∨ (5 * t + 2) / 153 = 10 ∨ (5 * t + 2) / 153 = 11 := by
  omega

/-- Every day of a March-based year is a date that exists. -/
theorem ofYearDay_valid {y t : Int} (h0 : 0 ≤ t) (h1 : t < 365 + if isLeap (y + 1) then 1 else 0) :
    1 ≤ (ofYearDay y t).2.1 ∧ (ofYearDay y t).2.1 ≤ 12 ∧ 1 ≤ (ofYearDay y t).2.2 ∧
      (ofYearDay y t).2.2 ≤ daysIn (ofYearDay y t).2.1 (ofYearDay y t).1 := by
  have hcases := monthIndex_cases h0 (by split_ifs at h1 <;> omega)
  rcases hcases with h | h | h | h | h | h | h | h | h | h | h | h <;>
    · simp only [ofYearDay, h, Int.reduceLT, Int.reduceAdd, Int.reduceSub, Int.reduceMul,
        Int.reduceDiv, ↓reduceIte, Int.reduceToNat, Int.reduceLE, daysIn]
      split_ifs at h1 ⊢ <;> omega

/-- The day number of a date of a March-based year. -/
theorem daysFromCivil_ofYearDay {y t : Int} (h0 : 0 ≤ t)
    (h1 : t < 365 + if isLeap (y + 1) then 1 else 0) :
    daysFromCivil (ofYearDay y t).1 (ofYearDay y t).2.1 (ofYearDay y t).2.2 =
      y / 400 * 146097 + yearStart (y % 400) + t - 719468 := by
  have hcases := monthIndex_cases h0 (by split_ifs at h1 <;> omega)
  -- the year of the era, with the year's own quotients
  have hyoe : y - y / 400 * 400 = y % 400 := by omega
  have hstart : yearStart (y % 400) = (y % 400) * 365 + y % 400 / 4 - y % 400 / 100 := by
    unfold yearStart
    omega
  rcases hcases with h | h | h | h | h | h | h | h | h | h | h | h <;>
    · simp only [ofYearDay, daysFromCivil, h, Int.reduceLT, Int.reduceAdd, Int.reduceSub,
        Int.reduceMul, Int.reduceDiv, ↓reduceIte, Int.reduceToNat, Int.reduceLE,
        Nat.reduceLeDiff, Nat.cast_ofNat, Nat.cast_one, Int.reduceMod, add_sub_cancel_right,
        hyoe, hstart]
      rw [Int.toNat_of_nonneg (by omega)]
      omega

/-- **Dates exist.**  The date of every day number has a month from 1 to 12 and a day from 1 to
the length of that month in that year. -/
theorem civilFromDays_valid (z : Int) :
    1 ≤ (civilFromDays z).2.1 ∧ (civilFromDays z).2.1 ≤ 12 ∧ 1 ≤ (civilFromDays z).2.2 ∧
      (civilFromDays z).2.2 ≤ daysIn (civilFromDays z).2.1 (civilFromDays z).1 := by
  obtain ⟨e, n, t, -, -, ht, ht', -, hz⟩ := civilFromDays_eq z
  rw [hz]
  exact ofYearDay_valid ht ht'

/-- **The day number comes back** from the date of every day number. -/
theorem daysFromCivil_civilFromDays (z : Int) :
    daysFromCivil (civilFromDays z).1 (civilFromDays z).2.1 (civilFromDays z).2.2 = z := by
  obtain ⟨e, n, t, hn, hn', ht, ht', hdays, hz⟩ := civilFromDays_eq z
  have hera : (n + e * 400) / 400 = e := by omega
  have hyear : (n + e * 400) % 400 = n := by omega
  rw [hz, daysFromCivil_ofYearDay ht ht', hera, hyear]
  omega

end SailSim.Civil
