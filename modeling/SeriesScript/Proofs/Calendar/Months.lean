import Mathlib.Algebra.Order.Group.Int
import Mathlib.Order.SuccPred.Basic
import Mathlib.Data.Nat.Find
import Mathlib.Tactic.IntervalCases
import SeriesScript.Calendar.Date

/-!
# Months and their first days

Years and months follow each other without gaps, so the month of a day is the one month whose first
day is not beyond it while the next one's is.
-/
namespace SeriesScript.Calendar

variable {year month day : Int}

theorem yearStart_succ (year : Int) :
    yearStart (year + 1) = yearStart year + 365 + (if isLeap year then 1 else 0) := by
  unfold yearStart isLeap
  by_cases h4 : year % 4 = 0 <;> by_cases h100 : year % 100 = 0 <;>
    by_cases h400 : year % 400 = 0 <;> simp [h4, h100, h400] <;> omega

/-- The mean year is off by one year at most. -/
theorem yearStart_mean (day : Int) :
    yearStart ((day + 719162) * 400 / 146097) ≤ day ∧
      day < yearStart ((day + 719162) * 400 / 146097 + 3) := by
  unfold yearStart
  omega

theorem yearOf_spec (day : Int) : yearStart (yearOf day) ≤ day ∧ day < yearStart (yearOf day + 1) := by
  obtain ⟨low, high⟩ := yearStart_mean day
  unfold yearOf
  generalize (day + 719162) * 400 / 146097 = mean at *
  simp only
  split
  · rename_i before
    rw [Int.add_sub_cancel]
    exact ⟨low, before⟩
  · split
    · rename_i beyond
      rw [show mean + 1 + 1 + 1 = mean + 3 by omega]
      exact ⟨beyond, high⟩
    · omega

theorem daysBefore_lt_succ (leap : Bool) (month : Nat) (h : month < 11) :
    daysBefore leap month < daysBefore leap (month + 1) := by
  cases leap <;> interval_cases month <;> decide

/-- The month of a day of the year is the one whose days hold it; the last month has no next one to
end it. -/
theorem monthInYear_eq {leap : Bool} {place : Nat} (h : place < 12) (low : daysBefore leap place ≤ day)
    (high : place < 11 → day < daysBefore leap (place + 1)) : monthInYear leap day = place := by
  cases leap <;> interval_cases place <;> simp [daysBefore, commonDaysBefore] at low high <;>
    simp only [monthInYear] <;> grind

theorem monthInYear_spec (leap : Bool) (h : 0 ≤ day) :
    monthInYear leap day < 12 ∧ daysBefore leap (monthInYear leap day) ≤ day ∧
      (monthInYear leap day < 11 → day < daysBefore leap (monthInYear leap day + 1)) := by
  let begun (place : Nat) : Prop := daysBefore leap place ≤ day
  have first : begun 0 := by
    simpa [begun, daysBefore, commonDaysBefore] using h
  have low : begun (Nat.findGreatest begun 11) := Nat.findGreatest_spec (Nat.zero_le 11) first
  have high : Nat.findGreatest begun 11 < 11 → day < daysBefore leap (Nat.findGreatest begun 11 + 1) :=
    fun last => not_le.mp (Nat.findGreatest_is_greatest (Nat.lt_succ_self _) last)
  have bound : Nat.findGreatest begun 11 < 12 := Nat.lt_succ_of_le (Nat.findGreatest_le 11)
  rw [monthInYear_eq bound low high]
  exact ⟨bound, low, high⟩

theorem monthStart_of_lt (year : Int) (place : Nat) (h : place < 12) :
    monthStart (12 * year + place) = yearStart year + daysBefore (isLeap year) place := by
  have hy : (12 * year + place) / 12 = year := by omega
  have hm : ((12 * year + place) % 12).toNat = place := by omega
  rw [monthStart, hy, hm]

theorem monthStart_lt_succ (month : Int) : monthStart month < monthStart (month + 1) := by
  obtain ⟨year, place, h, rfl⟩ : ∃ (year : Int) (place : Nat), place < 12 ∧
      month = 12 * year + place := ⟨month / 12, (month % 12).toNat, by omega, by omega⟩
  rw [monthStart_of_lt year place h]
  by_cases last : place = 11
  · subst last
    have hn : 12 * year + (11 : Nat) + 1 = 12 * (year + 1) + (0 : Nat) := by omega
    rw [hn, monthStart_of_lt _ 0 (by omega), yearStart_succ]
    have within : daysBefore (isLeap year) 11 < 365 := by
      cases isLeap year <;> decide
    have nothing : daysBefore (isLeap (year + 1)) 0 = 0 := by
      cases isLeap (year + 1) <;> decide
    split <;> omega
  · have hn : 12 * year + (place : Int) + 1 = 12 * year + (place + 1 : Nat) := by omega
    rw [hn, monthStart_of_lt _ _ (by omega)]
    have := daysBefore_lt_succ (isLeap year) place (by omega)
    omega

theorem monthOf_spec (day : Int) :
    monthStart (monthOf day) ≤ day ∧ day < monthStart (monthOf day + 1) := by
  obtain ⟨low, high⟩ := yearOf_spec day
  have begun : 0 ≤ day - yearStart (yearOf day) := by omega
  obtain ⟨h, begins, ends⟩ := monthInYear_spec (isLeap (yearOf day)) begun
  rw [monthOf]
  generalize monthInYear (isLeap (yearOf day)) (day - yearStart (yearOf day)) = place at *
  refine ⟨by rw [monthStart_of_lt _ _ h]; omega, ?_⟩
  by_cases last : place = 11
  · subst last
    have hn : 12 * yearOf day + (11 : Nat) + 1 = 12 * (yearOf day + 1) + (0 : Nat) := by omega
    rw [hn, monthStart_of_lt _ 0 (by omega)]
    simpa [daysBefore, commonDaysBefore] using high
  · have hn : 12 * yearOf day + (place : Int) + 1 = 12 * yearOf day + (place + 1 : Nat) := by omega
    rw [hn, monthStart_of_lt _ _ (by omega)]
    have := ends (by omega)
    omega

@[simp] theorem monthStart_lt_monthStart_iff {a b : Int} : monthStart a < monthStart b ↔ a < b :=
  (strictMono_int_of_lt_succ monthStart_lt_succ).lt_iff_lt

@[simp] theorem monthStart_le_monthStart_iff {a b : Int} : monthStart a ≤ monthStart b ↔ a ≤ b :=
  (strictMono_int_of_lt_succ monthStart_lt_succ).le_iff_le

/-- A month has begun by a day exactly if it is not after the day's month. -/
theorem monthStart_le_iff : monthStart month ≤ day ↔ month ≤ monthOf day := by
  obtain ⟨low, high⟩ := monthOf_spec day
  constructor
  · intro h
    have before : month < monthOf day + 1 :=
      monthStart_lt_monthStart_iff.mp (lt_of_le_of_lt h high)
    omega
  · intro h
    exact (monthStart_le_monthStart_iff.mpr h).trans low

@[simp] theorem monthOf_monthStart (month : Int) : monthOf (monthStart month) = month := by
  have reached : month ≤ monthOf (monthStart month) := monthStart_le_iff.mp le_rfl
  have begun : monthOf (monthStart month) ≤ month :=
    monthStart_le_monthStart_iff.mp (monthOf_spec (monthStart month)).1
  omega

@[simp] theorem dayOfMonth_monthStart (month : Int) : dayOfMonth (monthStart month) = 0 := by
  simp [dayOfMonth]

/-- From the first of a month no day has to be cut. -/
@[simp] theorem shiftMonths_monthStart (month count : Int) :
    shiftMonths (monthStart month) count = monthStart (month + count) := by
  have := monthStart_lt_succ (month + count)
  simp only [shiftMonths, monthLength, monthOf_monthStart, dayOfMonth_monthStart]
  omega

end SeriesScript.Calendar
