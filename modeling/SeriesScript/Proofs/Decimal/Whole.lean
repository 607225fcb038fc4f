import Mathlib.Algebra.Order.Field.Rat
import Mathlib.Tactic.Ring
import SeriesScript.Decimal.Dyadic

/-!
# Doubles that are whole numbers

The value of a finite double is a rational number, an integer over a power of two. The exact test
for whole numbers finds the integer that a double stands for, and finds none where its value is no
integer.
-/
namespace SeriesScript.Decimal

namespace Dyadic

variable {d : Dyadic} {n : Int}

def sign (d : Dyadic) : Int := if d.negative then -1 else 1

def toRat (d : Dyadic) : ℚ := d.sign * d.mantissa * 2 ^ d.exponent

def numerator (d : Dyadic) : Nat := d.mantissa * twoTo d.exponent.toNat

def denominator (d : Dyadic) : Nat := twoTo (-d.exponent).toNat

theorem denominator_pos (d : Dyadic) : 0 < d.denominator := Nat.two_pow_pos _

theorem sign_mul_self (d : Dyadic) : d.sign * d.sign = 1 := by
  rw [sign]
  split <;> rfl

theorem toRat_eq_div (d : Dyadic) : d.toRat = (d.sign * d.numerator : Int) / d.denominator := by
  have scale : (2 : ℚ) ^ d.exponent = twoTo d.exponent.toNat / twoTo (-d.exponent).toNat := by
    have difference : d.exponent = (d.exponent.toNat : Int) - (-d.exponent).toNat := by omega
    conv_lhs => rw [difference]
    rw [zpow_sub₀ (by norm_num), zpow_natCast, zpow_natCast]
    simp [twoTo]
  rw [toRat, scale, numerator, denominator]
  push_cast
  ring

theorem truncate_eq (d : Dyadic) :
    d.truncate = d.sign * ((d.numerator / d.denominator : Nat) : Int) := by
  have signed : d.truncate = if d.negative then -((d.numerator / d.denominator : Nat) : Int)
    else ((d.numerator / d.denominator : Nat) : Int) := rfl
  rw [signed, sign]
  split <;> simp

theorem isWhole_iff : d.isWhole = true ↔ d.denominator ∣ d.numerator := by
  rw [isWhole, beq_iff_eq, ← Nat.dvd_iff_mod_eq_zero, numerator, denominator]
  rcases Int.le_total 0 d.exponent with above | below
  · have one : twoTo (-d.exponent).toNat = 1 := by
      rw [Int.toNat_of_nonpos (by omega)]
      rfl
    simp [one]
  · have one : twoTo d.exponent.toNat = 1 := by
      rw [Int.toNat_of_nonpos below]
      rfl
    rw [one, Nat.mul_one]

theorem toRat_eq_iff_mul : d.toRat = n ↔ d.sign * d.numerator = n * d.denominator := by
  have nonzero : (d.denominator : ℚ) ≠ 0 := by exact_mod_cast d.denominator_pos.ne'
  rw [toRat_eq_div, div_eq_iff nonzero]
  exact_mod_cast Iff.rfl

/-- A whole number is its own truncation. -/
theorem toRat_eq_iff : d.toRat = n ↔ d.isWhole = true ∧ d.truncate = n := by
  have positive := d.denominator_pos
  rw [isWhole_iff, truncate_eq, toRat_eq_iff_mul]
  constructor
  · intro product
    have numerator : (d.numerator : Int) = d.denominator * (d.sign * n) := by
      calc (d.numerator : Int) = d.sign * (d.sign * d.numerator) := by
            rw [← Int.mul_assoc, sign_mul_self, Int.one_mul]
        _ = d.denominator * (d.sign * n) := by
            rw [product]
            ring
    have divides : d.denominator ∣ d.numerator := Int.natCast_dvd_natCast.mp ⟨_, numerator⟩
    refine ⟨divides, ?_⟩
    rw [Int.natCast_div, numerator, Int.mul_ediv_cancel_left _ (by omega), ← Int.mul_assoc,
      sign_mul_self, Int.one_mul]
  · rintro ⟨⟨q, whole⟩, rfl⟩
    rw [whole, Nat.mul_div_cancel_left q positive]
    push_cast
    ring

end Dyadic

/-- The double stands for the integer. -/
def HasValue (x : Float) (n : Int) : Prop := ∃ d, Dyadic.ofFloat? x = some d ∧ d.toRat = n

theorem HasValue.unique {x : Float} {m n : Int} (h : HasValue x m) (h' : HasValue x n) : m = n := by
  obtain ⟨d, read, value⟩ := h
  obtain ⟨e, read', value'⟩ := h'
  cases read.symm.trans read'
  exact_mod_cast value.symm.trans value'

/-- The test for whole numbers is exact. -/
theorem wholeValue?_eq_some_iff {x : Float} {n : Int} : wholeValue? x = some n ↔ HasValue x n := by
  rw [wholeValue?, HasValue]
  cases Dyadic.ofFloat? x with
  | none => simp
  | some d => by_cases whole : d.isWhole = true <;> simp [whole, Dyadic.toRat_eq_iff]

end SeriesScript.Decimal
