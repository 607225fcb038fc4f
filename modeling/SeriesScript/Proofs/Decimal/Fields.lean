import Mathlib

/-!
# The fields of a double

A double is a sign, 11 bits for its exponent and 52 bits for its significand. A first significand
bit in front of these is left out: it is set, unless the exponent is the least one. So a larger
exponent outweighs every significand, and the bits below the sign, read as a number, count up with
the size of the double: two doubles compare as these numbers do with the signs in front of them.
-/
namespace SeriesScript.Double

open Float.Model Float.Model.UnpackedFloat

variable {s t : Sign} {j k : Int} {x y : UnpackedFloat}

/-- What a double other than a NaN stands for, if `s` is its sign and the bits below spell `k`. -/
inductive Stored (s : Sign) (k : Int) : UnpackedFloat → Prop
  | zero (place : k = 0) : Stored s k (.zero s)
  | finite {m : Nat} {e : Int} {positive : 0 < m} (low : -1074 ≤ e) (high : e ≤ 971)
      (fits : m < 2 ^ 53) (full : e = -1074 ∨ 2 ^ 52 ≤ m) (place : k = (e + 1074) * 2 ^ 52 + m) :
      Stored s k (.finite s m e positive)
  | infinity (place : k = 2047 * 2 ^ 52) : Stored s k (.infinity s)

theorem Stored.bounds (h : Stored s k x) : 0 ≤ k ∧ k ≤ 2047 * 2 ^ 52 := by
  cases h <;> omega

/-! ## Reading the fields -/

def belowSign (bits : BitVec Format.binary64.numBits) : Nat :=
  (unpackExponent bits).toNat * 2 ^ 52 + (unpackMantissa bits).toNat

theorem toNat_eq_sign_belowSign (bits : BitVec Format.binary64.numBits) :
    bits.toNat = (unpackSign bits).toNat * 2 ^ 63 + belowSign bits := by
  have fits : bits.toNat < 2 ^ 64 := bits.isLt
  have sign : (unpackSign bits).toNat = bits.toNat / 2 ^ 63 % 2 := by
    simp [unpackSign, BitVec.extractLsb, Nat.shiftRight_eq_div_pow]
  have exponent : (unpackExponent bits).toNat = bits.toNat / 2 ^ 52 % 2 ^ 11 := by
    simp [unpackExponent, BitVec.extractLsb, Nat.shiftRight_eq_div_pow]
  have mantissa : (unpackMantissa bits).toNat = bits.toNat % 2 ^ 52 := by
    simp [unpackMantissa, BitVec.extractLsb]
  rw [belowSign, sign, exponent, mantissa]
  omega

theorem toNat_one_append (v : BitVec 52) : (1#1 ++ v).toNat = 2 ^ 52 + v.toNat := by
  rw [BitVec.toNat_append, ← Nat.shiftLeft_add_eq_or_of_lt v.isLt, Nat.shiftLeft_eq]
  simp

theorem stored_unpack (bits : BitVec Format.binary64.numBits)
    (number : (UnpackedFloat.unpack Format.binary64 bits).isNaN = false) :
    Stored (.ofBitVec (unpackSign bits)) (belowSign bits)
      (UnpackedFloat.unpack Format.binary64 bits) := by
  have bias : (Format.binary64.exponentBias : Int) = 1023 := rfl
  have exponentFits : (unpackExponent bits).toNat < 2 ^ 11 := (unpackExponent bits).isLt
  have mantissaFits : (unpackMantissa bits).toNat < 2 ^ 52 := (unpackMantissa bits).isLt
  rw [belowSign]
  revert number
  fun_cases UnpackedFloat.unpack with
  | case1 mantissa exponent signed sign last empty =>
    intro _
    have top : (unpackExponent bits).toNat = 2047 := congrArg BitVec.toNat last
    have nothing : (unpackMantissa bits).toNat = 0 := congrArg BitVec.toNat empty
    exact .infinity (by omega)
  | case2 => nofun
  | case3 mantissa exponent signed sign notLast first empty =>
    intro _
    have bottom : (unpackExponent bits).toNat = 0 := congrArg BitVec.toNat first
    have nothing : (unpackMantissa bits).toNat = 0 := congrArg BitVec.toNat empty
    exact .zero (by omega)
  | case4 mantissa exponent unbiased signed sign notLast first some =>
    intro _
    have bottom : (unpackExponent bits).toNat = 0 := congrArg BitVec.toNat first
    have least : unbiased + 1 = -1074 := by
      simp only [unbiased, exponent, bias, bottom]
      rfl
    have plain : mantissa.toNat = (unpackMantissa bits).toNat := rfl
    rw [least]
    exact .finite (by decide) (by decide) (by omega) (.inl rfl) (by omega)
  | case5 mantissa exponent unbiased signed sign notLast notFirst =>
    intro _
    have notTop : (unpackExponent bits).toNat ≠ 2047 := fun top =>
      notLast (BitVec.eq_of_toNat_eq top)
    have notBottom : (unpackExponent bits).toNat ≠ 0 := fun bottom =>
      notFirst (BitVec.eq_of_toNat_eq bottom)
    have size : unbiased = (unpackExponent bits).toNat - 1075 := by
      simp only [unbiased, exponent, bias]
      omega
    have completed : (1#1 ++ mantissa).toNat = 2 ^ 52 + (unpackMantissa bits).toNat :=
      toNat_one_append _
    rw [size]
    refine .finite (by omega) (by omega) ?_ (.inr ?_) ?_ <;> rw [completed] <;> omega

/-! ## Comparing -/

@[simp] theorem compare_signs : compare Sign.negative Sign.positive = .lt := rfl

/-- Doubles compare as the numbers below their signs do, with the signs in front of them. -/
theorem Stored.lt_iff (hx : Stored s j x) (hy : Stored t k y) :
    x.lt y = true ↔ s.apply j < t.apply k := by
  cases hx <;> cases hy <;> cases s <;> cases t <;>
    simp [UnpackedFloat.lt, UnpackedFloat.compare, Sign.apply, Ordering.then_eq_lt,
      Ordering.then_eq_gt, Int.compare_eq_lt, Int.compare_eq_gt, Nat.compare_eq_lt,
      Nat.compare_eq_gt] <;>
    omega

end SeriesScript.Double
