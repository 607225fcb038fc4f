import SeriesScript.Proofs.Decimal.Whole
import SeriesScript.Proofs.Time.Exact

/-!
# Whole multiples of periods

A whole factor of at most 31 bits multiplies the years, months and days of a period, and the
multiple is refused if the counts do not fit. A larger factor multiplies the length of the period
instead: such a multiple is never a period, even where all its counts would fit.
-/
namespace SeriesScript

namespace TimeAmount

variable {p : Period} {a t : TimeAmount} {x : Float} {n : Int}

/-- The result is the period with the multiplied counts, or a refusal. -/
def MultipliesCounts (p : Period) (n : Int) (result : Except ArgumentFault TimeAmount) : Prop :=
  (∃ q : Period, q.Counts (p.years.toInt * n) (p.months.toInt * n) (p.days.toInt * n) ∧
    result = .ok (period q)) ∨ result = .error .timeOutOfRange

theorem wholeFactor?_eq_some_iff :
    wholeFactor? x = some n ↔ Decimal.HasValue x n ∧ n.natAbs ≤ 2147483647 := by
  rw [wholeFactor?, ← Decimal.wholeValue?_eq_some_iff]
  cases Decimal.wholeValue? x with
  | none => simp
  | some k =>
    by_cases small : k.natAbs ≤ 2147483647
    · simp only [small, ↓reduceIte, Option.some.injEq]
      constructor
      · rintro rfl
        exact ⟨rfl, small⟩
      · exact And.left
    · simp only [small, ↓reduceIte, reduceCtorEq, Option.some.injEq, false_iff]
      rintro ⟨rfl, fits⟩
      exact small fits

theorem wholeFactor?_of_large (whole : Decimal.HasValue x n) (large : 2147483647 < n.natAbs) :
    wholeFactor? x = none := by
  rw [wholeFactor?, Decimal.wholeValue?_eq_some_iff.mpr whole]
  exact if_neg (Nat.not_le.mpr large)

theorem scaleLength_eq (t : TimeAmount) (x : Float) :
    t.scaleLength x =
      inRange ((t.length?.bind fun d => Duration.ofFloat? (d.seconds * x)).map duration) := by
  rw [scaleLength, seconds, resolve]
  cases t.length? with
  | none => rfl
  | some d => rfl

theorem scale_of_small (whole : Decimal.HasValue x n) (small : n.natAbs ≤ 2147483647) (p : Period) :
    (period p).scale x = inRange (resolvable? (Period.ofComponents?
      (p.years.toInt * n) (p.months.toInt * n) (p.days.toInt * n))) := by
  unfold scale
  rw [wholeFactor?_eq_some_iff.mpr ⟨whole, small⟩]
  rfl

theorem scale_of_large (whole : Decimal.HasValue x n) (large : 2147483647 < n.natAbs) (p : Period) :
    (period p).scale x =
      inRange ((p.duration?.bind fun d => Duration.ofFloat? (d.seconds * x)).map duration) := by
  unfold scale
  rw [wholeFactor?_of_large whole large]
  exact scaleLength_eq (period p) x

theorem inRange_duration_cases (length : Option Duration) :
    inRange (length.map duration) = .error .timeOutOfRange ∨
      ∃ d, inRange (length.map duration) = .ok (duration d) := by
  cases length with
  | none => exact .inl rfl
  | some d => exact .inr ⟨d, rfl⟩

theorem scale_eq_ok (h : a.scale x = .ok t) :
    (∃ p n, a = period p ∧ Decimal.HasValue x n ∧ n.natAbs ≤ 2147483647) ∨
      ∃ d, t = duration d := by
  unfold scale at h
  split at h
  · rename_i p n whole
    exact .inl ⟨p, n, rfl, wholeFactor?_eq_some_iff.mp whole⟩
  · rw [scaleLength_eq] at h
    obtain ⟨d, -, rfl⟩ := Option.map_eq_some_iff.mp (inRange_eq_ok_iff.mp h)
    exact .inr ⟨d, rfl⟩

/-- A whole multiple by a factor of at most 31 bits is counted exactly, and refused where the counts
do not fit. One by a larger factor is the multiple of the length in seconds, a duration, and never a
period. -/
theorem scale_of_whole (p : Period) (x : Float) (n : Int) (whole : Decimal.HasValue x n) :
    (n.natAbs ≤ 2147483647 →
      MultipliesCounts p n ((period p).scale x) ∧
      ((period p).scale x = .error .timeOutOfRange ↔
        ¬ Period.Fit (p.years.toInt * n) (p.months.toInt * n) (p.days.toInt * n))) ∧
    (2147483647 < n.natAbs →
      (period p).scale x =
        inRange ((p.duration?.bind fun d => Duration.ofFloat? (d.seconds * x)).map duration) ∧
      ∀ q, (period p).scale x ≠ .ok (period q)) := by
  constructor
  · intro small
    rw [scale_of_small whole small]
    by_cases fit : Period.Fit (p.years.toInt * n) (p.months.toInt * n) (p.days.toInt * n)
    · obtain ⟨q, counts, -, made⟩ := ofComponents_of_fit fit
      rw [made]
      exact ⟨.inl ⟨q, counts, rfl⟩, by simp [fit]⟩
    · rw [ofComponents_of_not_fit fit]
      exact ⟨.inr rfl, by simp [fit]⟩
  · intro large
    refine ⟨scale_of_large whole large p, fun q => ?_⟩
    rw [scale_of_large whole large]
    intro made
    rcases inRange_duration_cases (p.duration?.bind fun d => Duration.ofFloat? (d.seconds * x)) with
      refused | ⟨d, multiple⟩
    · cases refused.symm.trans made
    · cases multiple.symm.trans made

/-- A day and two factors next to each other. The counts fit for both, and yet the second multiple
is no period. -/
theorem scale_of_whole_days :
    (Decimal.HasValue (-2147483647) (-2147483647) ∧ ∃ q : Period, q.Counts 0 0 (-2147483647) ∧
      (period ⟨0, 0, 1⟩).scale (-2147483647) = .ok (period q)) ∧
    (Decimal.HasValue (-2147483648) (-2147483648) ∧ Period.Fit 0 0 (-2147483648) ∧
      ∃ d : Duration, d.nanos = -185542587187200 * nanosPerSecond ∧
        (period ⟨0, 0, 1⟩).scale (-2147483648) = .ok (duration d)) := by
  have small : Decimal.HasValue (-2147483647) (-2147483647) :=
    Decimal.wholeValue?_eq_some_iff.mp (by decide +kernel)
  have large : Decimal.HasValue (-2147483648) (-2147483648) :=
    Decimal.wholeValue?_eq_some_iff.mp (by decide +kernel)
  obtain ⟨counted, refused⟩ := (scale_of_whole ⟨0, 0, 1⟩ _ _ small).1 (by decide)
  obtain ⟨multiple, -⟩ := (scale_of_whole ⟨0, 0, 1⟩ _ _ large).2 (by decide)
  obtain ⟨q, counts, made⟩ := counted.resolve_right fun refusal =>
    refused.mp refusal (by decide)
  refine ⟨⟨small, q, by simpa using counts, made⟩, large, by decide,
    ⟨-185542587187200 * nanosPerSecond, by decide⟩, rfl, ?_⟩
  have length : ((Period.duration? ⟨0, 0, 1⟩).bind fun d =>
      Duration.ofFloat? (d.seconds * -2147483648)) =
        some ⟨-185542587187200 * nanosPerSecond, by decide⟩ := by
    decide +kernel
  rw [multiple, length]
  rfl

theorem scale_day_beyond : Decimal.HasValue 2147483648 2147483648 ∧
    ∃ d : Duration, (period ⟨0, 0, 1⟩).scale 2147483648 = .ok (duration d) := by
  have whole : Decimal.HasValue 2147483648 2147483648 :=
    Decimal.wholeValue?_eq_some_iff.mp (by decide +kernel)
  have length : ((Period.duration? ⟨0, 0, 1⟩).bind fun d =>
      Duration.ofFloat? (d.seconds * 2147483648)) =
        some ⟨185542587187200 * nanosPerSecond, by decide⟩ := by
    decide +kernel
  refine ⟨whole, ⟨185542587187200 * nanosPerSecond, by decide⟩, ?_⟩
  rw [scale_of_large whole (by decide), length]
  rfl

/-- A day is not multiplied by `2147483648` as a period, and the multiple is not refused either. -/
theorem not_scale_multipliesCounts_days :
    ¬ ∀ (p : Period) (x : Float) (n : Int), Decimal.HasValue x n →
      MultipliesCounts p n ((period p).scale x) := by
  intro claimed
  obtain ⟨whole, d, multiple⟩ := scale_day_beyond
  have result := claimed ⟨0, 0, 1⟩ 2147483648 2147483648 whole
  rw [multiple] at result
  rcases result with ⟨q, -, same⟩ | refused
  · cases same
  · cases refused

end TimeAmount

end SeriesScript
