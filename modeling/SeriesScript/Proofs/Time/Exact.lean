import Mathlib.Algebra.Order.Group.Int
import SeriesScript.Value

/-!
# Exact time arithmetic

Counts of years, months and days fit into a period if each is a number of 32 bits and the period
they make has a length. Two periods are joined by their counts, and all other amounts by their
lengths.
-/
namespace SeriesScript

namespace Duration

theorem isSome_ofSeconds?_iff {seconds : Int} :
    (ofSeconds? seconds).isSome = true ↔ seconds.natAbs ≤ 9223372036854775 := by
  rw [ofSeconds?, ofNanos?, nanosPerSecond]
  split <;> simp <;> omega

end Duration

namespace Period

variable {p : Period} {n years months days : Int}

theorem component?_eq_some_iff {c : Int32} : component? n = some c ↔ c.toInt = n := by
  have low := Int32.le_toInt c
  have high := Int32.toInt_lt c
  rw [component?]
  split
  · rename_i within
    rw [Option.some.injEq]
    constructor
    · rintro rfl
      exact Int32.toInt_ofInt_of_le within.1 (by omega)
    · rintro rfl
      exact Int32.ofInt_toInt c
  · simp only [reduceCtorEq, false_iff]
    omega

def Counts (p : Period) (years months days : Int) : Prop :=
  p.years.toInt = years ∧ p.months.toInt = months ∧ p.days.toInt = days

theorem ofComponents?_eq_some_iff :
    ofComponents? years months days = some p ↔ p.Counts years months days := by
  obtain ⟨y, m, d⟩ := p
  constructor
  · intro h
    rw [ofComponents?] at h
    split at h
    · rename_i y' m' d' hy hm hd
      cases h
      exact ⟨component?_eq_some_iff.mp hy, component?_eq_some_iff.mp hm,
        component?_eq_some_iff.mp hd⟩
    · cases h
  · rintro ⟨hy, hm, hd⟩
    rw [ofComponents?, component?_eq_some_iff.mpr hy, component?_eq_some_iff.mpr hm,
      component?_eq_some_iff.mpr hd]

def IsComponent (n : Int) : Prop := -2147483648 ≤ n ∧ n ≤ 2147483647

instance (n : Int) : Decidable (IsComponent n) := inferInstanceAs (Decidable (_ ∧ _))

/-- Years, months and days that a period can count, and that are short enough for a duration when
they are taken together. -/
def Fit (years months days : Int) : Prop :=
  IsComponent years ∧ IsComponent months ∧ IsComponent days ∧
    (years * secondsPerYear + months * secondsPerMonth + days * secondsPerDay).natAbs ≤
      9223372036854775

instance (years months days : Int) : Decidable (Fit years months days) :=
  inferInstanceAs (Decidable (_ ∧ _))

theorem isComponent_toInt (c : Int32) : IsComponent c.toInt := by
  have low := Int32.le_toInt c
  have high := Int32.toInt_lt c
  constructor <;> omega

theorem IsComponent.toInt_ofInt (h : IsComponent n) : (Int32.ofInt n).toInt = n :=
  Int32.toInt_ofInt_of_le h.1 (Int.lt_add_one_of_le h.2)

/-- Counts fit exactly if they are those of a period that has a length. -/
theorem fit_iff : Fit years months days ↔
    ∃ p : Period, p.Counts years months days ∧ p.duration?.isSome = true := by
  constructor
  · rintro ⟨hy, hm, hd, short⟩
    refine ⟨⟨.ofInt years, .ofInt months, .ofInt days⟩, ?_, ?_⟩
    · exact ⟨hy.toInt_ofInt, hm.toInt_ofInt, hd.toInt_ofInt⟩
    · rw [duration?, Duration.isSome_ofSeconds?_iff, totalSeconds, hy.toInt_ofInt, hm.toInt_ofInt,
        hd.toInt_ofInt]
      exact short
  · rintro ⟨p, ⟨rfl, rfl, rfl⟩, resolves⟩
    exact ⟨isComponent_toInt _, isComponent_toInt _, isComponent_toInt _,
      Duration.isSome_ofSeconds?_iff.mp resolves⟩

end Period

namespace TimeAmount

variable {years months days : Int} {a b t : TimeAmount} {x : Float}

theorem ofComponents_of_fit (h : Period.Fit years months days) :
    ∃ p : Period, p.Counts years months days ∧ p.duration?.isSome = true ∧
      inRange (resolvable? (Period.ofComponents? years months days)) = .ok (period p) := by
  obtain ⟨p, counts, resolves⟩ := Period.fit_iff.mp h
  refine ⟨p, counts, resolves, ?_⟩
  rw [Period.ofComponents?_eq_some_iff.mpr counts, resolvable?, if_pos resolves]
  rfl

theorem ofComponents_of_not_fit (h : ¬ Period.Fit years months days) :
    inRange (resolvable? (Period.ofComponents? years months days)) = .error .timeOutOfRange := by
  cases hp : Period.ofComponents? years months days with
  | none => rfl
  | some p =>
    have long : ¬ p.duration?.isSome = true := fun resolves =>
      h (Period.fit_iff.mpr ⟨p, Period.ofComponents?_eq_some_iff.mp hp, resolves⟩)
    rw [resolvable?, if_neg long]
    rfl

theorem inRange_eq_ok_iff {α : Type} {o : Option α} {t : α} : inRange o = .ok t ↔ o = some t := by
  cases o <;> simp [inRange]

theorem ofSeconds_eq_ok (h : ofSeconds x = .ok t) : ∃ d, t = duration d := by
  obtain ⟨d, -, rfl⟩ := Option.map_eq_some_iff.mp (inRange_eq_ok_iff.mp h)
  exact ⟨d, rfl⟩

theorem combine?_eq_some {op : Duration → Duration → Option Duration}
    (h : combine? op a b = some t) :
    ∃ x y z, a.length? = some x ∧ b.length? = some y ∧ op x y = some z ∧ t = duration z := by
  rw [combine?] at h
  split at h
  · rename_i x y left right
    obtain ⟨z, made, rfl⟩ := Option.map_eq_some_iff.mp h
    exact ⟨x, y, z, left, right, made, rfl⟩
  · cases h

theorem combine?_eq_ok {op : Duration → Duration → Option Duration}
    (h : inRange (combine? op a b) = .ok t) : ∃ d, t = duration d := by
  obtain ⟨-, -, d, -, -, -, rfl⟩ := combine?_eq_some (inRange_eq_ok_iff.mp h)
  exact ⟨d, rfl⟩

/-- Two amounts joined: two periods by their counts, and all others by their lengths. -/
def join (counts : Period → Period → Option Period)
    (lengths : Duration → Duration → Option Duration) (a b : TimeAmount) :
    Except ArgumentFault TimeAmount :=
  match a, b with
  | period p, period q => inRange (resolvable? (counts p q))
  | a, b => inRange (combine? lengths a b)

theorem add_eq_join (a b : TimeAmount) : a.add b = join Period.add? Duration.add? a b := by
  cases a <;> cases b <;> rfl

theorem sub_eq_join (a b : TimeAmount) : a.sub b = join Period.sub? Duration.sub? a b := by
  cases a <;> cases b <;> rfl

section Join

variable {counts : Period → Period → Option Period}
  {lengths : Duration → Duration → Option Duration}

theorem join_eq_ok (h : join counts lengths a b = .ok t) :
    (∃ p q, a = period p ∧ b = period q) ∨ ∃ d, t = duration d := by
  cases a with
  | period p => cases b with
    | period q => exact .inl ⟨p, q, rfl, rfl⟩
    | duration d => exact .inr (combine?_eq_ok h)
  | duration d => exact .inr (combine?_eq_ok h)

theorem join_of_mixed (mixed : (a.isPeriod && b.isPeriod) = false) :
    join counts lengths a b = inRange (combine? lengths a b) := by
  cases a with
  | period p => cases b with
    | period q => cases mixed
    | duration _ => rfl
  | duration _ => rfl

end Join

theorem divide_eq_ok (h : a.divide x = .ok t) : ∃ d, t = duration d := by
  rw [divide] at h
  split at h
  · cases h
  · split at h
    · exact ofSeconds_eq_ok h
    · cases h

end TimeAmount

end SeriesScript
