import SeriesScript.Proofs.Decimal.Fields

/-!
# Doubles with a full significand

Rounding keeps a number whose significand has 53 bits or more at 53 bits and at its size, or makes
it infinite. So does storing it, as long as its exponent is not below the range of doubles. Whole
numbers are far from the lower end of that range, and their thousandths too: only zero becomes zero.
-/
namespace SeriesScript.Double

open Float.Model Float.Model.UnpackedFloat

variable {x y : UnpackedFloat} {s : Sign} {m n k : Nat} {e least : Int} {a : Accuracy}

/-- An infinity, or a significand of 53 bits with an exponent from `least` on. -/
inductive Full (least : Int) : UnpackedFloat → Prop
  | infinity (s : Sign) : Full least (.infinity s)
  | finite {s : Sign} {m : Nat} {e : Int} {positive : 0 < m} (bits : m.log2 = 52) (size : least ≤ e) :
      Full least (.finite s m e positive)

/-! ## Binary lengths -/

theorem log2_shiftLeft (h : m ≠ 0) (k : Nat) : (m <<< k).log2 = m.log2 + k := by
  have positive := Nat.two_pow_pos k
  rw [Nat.shiftLeft_eq, Nat.log2_eq_iff (Nat.mul_ne_zero h positive.ne')]
  have low := Nat.log2_self_le h
  have high := Nat.lt_log2_self (n := m)
  constructor
  · rw [Nat.pow_add]
    exact Nat.mul_le_mul_right _ low
  · rw [Nat.add_right_comm, Nat.pow_add]
    exact Nat.mul_lt_mul_of_pos_right high positive

theorem log2_div_two_pow (m k : Nat) : (m / 2 ^ k).log2 = m.log2 - k := by
  rw [Nat.log2_eq_log_two, Nat.log2_eq_log_two, Nat.log_div_base_pow]

theorem ne_zero_of_log2 (h : 52 ≤ m.log2) : m ≠ 0 := by
  rintro rfl
  simp at h

/-! ## Rounding -/

theorem mantissa_shiftRight (em : ExtendedMantissa) (k : Nat) :
    (em >>> k).mantissa = em.mantissa / 2 ^ k := by
  induction k with
  | zero => simp [HShiftRight.hShiftRight, Nat.repeat]
  | succ k ih =>
    change (em >>> k).mantissa / 2 = _
    rw [ih, Nat.div_div_eq_div_mul, Nat.pow_succ]

@[simp] theorem mantissa_ofMantissaAndAccuracy (m : Nat) (a : Accuracy) :
    (ExtendedMantissa.ofMantissaAndAccuracy m a).mantissa = m := by
  cases a with
  | exact => rfl
  | inexact o => cases o <;> rfl

theorem roundedMantissa_bounds (em : ExtendedMantissa) :
    em.mantissa ≤ em.roundedMantissa ∧ em.roundedMantissa ≤ em.mantissa + 1 := by
  obtain ⟨m, r, s⟩ := em
  cases r <;> cases s <;>
    simp [ExtendedMantissa.roundedMantissa, ExtendedMantissa.accuracy, Accuracy.roundToNearestEven]
  omega

/-- A long significand is cut to 53 bits, and the number keeps its size. -/
theorem shiftToTargetExponent_full (h : 52 ≤ m.log2) (low : -1074 ≤ e) (a : Accuracy) :
    (shiftToTargetExponent Format.binary64 m e a).1.mantissa.log2 = 52 ∧
      (shiftToTargetExponent Format.binary64 m e a).2 = e + (m.log2 - 52 : Nat) := by
  have target : Format.binary64.targetExponent (totalExponent m e) - e = (m.log2 - 52 : Nat) := by
    simp only [Format.targetExponent, totalExponent, Format.mantissaBits, Format.minExponent]
    norm_num
    omega
  rw [shiftToTargetExponent, shiftToExponent, target, Int.toNat_natCast]
  refine ⟨?_, rfl⟩
  rw [mantissa_shiftRight, mantissa_ofMantissaAndAccuracy, log2_div_two_pow]
  omega

theorem roundWithAccuracy_full (h : 52 ≤ m.log2) (low : -1074 ≤ e)
    (size : least ≤ e + (m.log2 - 52 : Nat)) (s : Sign) (a : Accuracy) :
    Full least (roundWithAccuracy Format.binary64 s m e a) := by
  obtain ⟨cut, shifted⟩ := shiftToTargetExponent_full h low a
  rw [roundWithAccuracy]
  generalize shiftToTargetExponent Format.binary64 m e a = first at cut shifted ⊢
  obtain ⟨em, e'⟩ := first
  dsimp only at cut shifted ⊢
  -- rounding up may lengthen the significand by one bit, which is cut off again
  have long : 52 ≤ em.roundedMantissa.log2 := by
    have kept := (roundedMantissa_bounds em).1
    have nonzero := ne_zero_of_log2 cut.ge
    rw [Nat.le_log2 (by omega)]
    exact ((Nat.le_log2 nonzero).mp cut.ge).trans kept
  have low' : -1074 ≤ e' := by omega
  obtain ⟨cut', shifted'⟩ := shiftToTargetExponent_full long low' .exact
  rw [dif_neg (ne_zero_of_log2 cut'.ge)]
  exact .finite cut' (by omega)

/-- Rounding a whole number. -/
theorem round_full (h : n ≠ 0) (s : Sign) : Full (-52) (UnpackedFloat.round Format.binary64 s n 0) := by
  have target : 0 - Format.binary64.targetExponent (totalExponent n 0) = 52 - n.log2 := by
    simp only [Format.targetExponent, totalExponent, Format.mantissaBits, Format.minExponent]
    norm_num
    omega
  rw [UnpackedFloat.round, decreaseExponent, target]
  have long : 52 ≤ (n <<< ((52 : Int) - n.log2).toNat).log2 := by
    rw [log2_shiftLeft h]
    omega
  apply roundWithAccuracy_full long
  · omega
  · omega

/-! ## Storing -/

/-- The bit in front of a stored significand is left out, since it is known. -/
theorem toNat_append_ofNat (h : m.log2 = 52) : (1#1 ++ BitVec.ofNat 52 m).toNat = m := by
  obtain ⟨low, high⟩ := (Nat.log2_eq_iff (ne_zero_of_log2 h.ge)).mp h
  rw [toNat_one_append, BitVec.toNat_ofNat]
  omega

theorem full_pack_infinity (least : Int) (s : Sign) :
    Full least (Float.Model.pack (.infinity s)).unpack := by
  cases s <;> exact .infinity _

theorem full_pack (h : Full least x) (low : -1074 ≤ least) :
    Full least (Float.Model.pack x).unpack := by
  cases h with
  | infinity s => exact full_pack_infinity least s
  | @finite s m e positive bits size =>
    have bias : Format.binary64.exponentBias = 1023 := rfl
    simp only [Float.Model.pack, Float.Model.unpack, UnpackedFloat.pack, bias, Format.mantissaBits,
      bits]
    generalize place : (e + (1023 : Nat) + (52 : Nat)).toNat = biased
    split
    · exact full_pack_infinity least s
    · rename_i fits
      have exponent : (BitVec.ofNat 11 biased).toNat = biased := by
        rw [BitVec.toNat_ofNat]
        omega
      have notLast : BitVec.ofNat 11 biased ≠ -1#11 := by
        rw [ne_eq, BitVec.toNat_eq, exponent]
        simp
        omega
      have notFirst : BitVec.ofNat 11 biased ≠ 0#11 := by
        rw [ne_eq, BitVec.toNat_eq, exponent]
        simp
        omega
      simp only [UnpackedFloat.unpack, unpackExponent_packComponents, unpackMantissa_packComponents,
        notLast, notFirst, ↓reduceIte]
      refine .finite ?_ ?_
      · rw [toNat_append_ofNat bits]
        exact bits
      · rw [exponent]
        omega

/-! ## Operations -/

theorem Full.mul {more : Int} (hx : Full least x) (hy : Full more y) (low : -1074 ≤ least + more) :
    Full (least + more) (UnpackedFloat.mul Format.binary64 x y) := by
  cases hx with
  | infinity s => cases hy <;> exact .infinity _
  | @finite s₁ m₁ e₁ positive₁ bits₁ size₁ =>
    cases hy with
    | infinity s => exact .infinity _
    | @finite s₂ m₂ e₂ positive₂ bits₂ size₂ =>
      have long : 52 ≤ (m₁ * m₂).log2 := by
        rw [Nat.le_log2 (Nat.mul_pos positive₁ positive₂).ne']
        have long₁ := (Nat.le_log2 positive₁.ne').mp bits₁.ge
        exact long₁.trans (Nat.le_mul_of_pos_right m₁ positive₂)
      exact roundWithAccuracy_full long (by omega) (by omega) _ _

theorem Full.neg (hx : Full least x) : Full least (UnpackedFloat.neg x) := by
  cases hx with
  | infinity s => exact .infinity _
  | finite bits size => exact .finite bits size

/-- A quotient of significands of 53 bits is computed to 53 bits at least. -/
theorem Full.div {positive : 0 < n} (hx : Full least x) (bits : n.log2 = 52)
    (low : -1074 ≤ least - e - 53) :
    Full (least - e - 53) (UnpackedFloat.div Format.binary64 x (.finite s n e positive)) := by
  cases hx with
  | infinity s => exact .infinity _
  | @finite s₁ m e₁ positive₁ bits₁ size₁ =>
    have target : min (e₁ - e) (Format.binary64.targetExponent
        (totalExponent m e₁ - totalExponent n e)) = e₁ - e - 53 := by
      simp only [Format.targetExponent, totalExponent, Format.mantissaBits, Format.minExponent, bits,
        bits₁]
      norm_num
      omega
    have shift : (e₁ - e - (e₁ - e - 53)).toNat = 53 := by omega
    have high := Nat.lt_log2_self (n := n)
    have low₁ := Nat.log2_self_le positive₁.ne'
    have quotient : 2 ^ 52 ≤ (m <<< 53) / n := by
      rw [Nat.le_div_iff_mul_le positive, Nat.shiftLeft_eq]
      rw [bits] at high
      rw [bits₁] at low₁
      exact (Nat.mul_le_mul_left _ high.le).trans (Nat.mul_le_mul_right _ low₁)
    have long : 52 ≤ ((m <<< 53) / n).log2 := by
      rwa [Nat.le_log2 (by omega)]
    simp only [UnpackedFloat.div, divCore, target, shift]
    exact roundWithAccuracy_full long (by omega) (by omega) _ _

/-! ## Whole numbers and their thousandths -/

theorem normalize_full (h : n ≠ 0) (s : Sign) :
    Full (-52) (UnpackedFloat.normalize Format.binary64 n 0 s) := by
  have positive : compare (n : Int) 0 = .gt := Int.compare_eq_gt.mpr (by omega)
  simp only [UnpackedFloat.normalize, positive, Int.toNat_natCast]
  exact round_full h .positive

theorem ofUInt64_full {w : UInt64} (h : w.toNat ≠ 0) : Full (-52) w.toFloat.toModel.unpack :=
  full_pack (normalize_full h .positive) (by decide)

theorem ofScientific_full (h : n ≠ 0) :
    Full (-104) (UnpackedFloat.ofScientific Format.binary64 n 0) := by
  have bits : Format.binary64.mantissaBits = 53 := rfl
  have long := log2_shiftLeft h 53
  simp only [UnpackedFloat.ofScientific, h, ↓reduceDIte, bits]
  rw [if_neg (by decide), if_neg (by omega), if_pos le_rfl]
  simp only [UnpackedFloat.mul, Int.toNat_zero, Nat.pow_zero, Nat.mul_one]
  exact roundWithAccuracy_full (by omega) (by decide) (by omega) _ _

theorem ofNat_full (h : n ≠ 0) : Full (-104) (Float.ofNat n).toModel.unpack := by
  change Full (-104) (Float.ofScientific n false 0).toModel.unpack
  rw [Float.ofScientific]
  split
  · rename_i small
    have word : n.toUInt64.toNat = n := by
      simp [Nat.toUInt64]
      omega
    have one : Full (-52) (Float.exactlyRepresentablePowersOfTen[0]).toModel.unpack := by
      have unpacked : (Float.exactlyRepresentablePowersOfTen[0]).toModel.unpack =
          .finite .positive (2 ^ 52) (-52) (by decide) := rfl
      rw [unpacked]
      exact .finite (by decide) le_rfl
    have nonzero : n.toUInt64.toNat ≠ 0 := by rwa [word]
    exact full_pack ((ofUInt64_full nonzero).mul one (by decide)) (by decide)
  · exact full_pack (ofScientific_full h) (by decide)

theorem ofInt_full {i : Int} (h : i ≠ 0) : Full (-104) (Float.ofInt i).toModel.unpack := by
  cases i with
  | ofNat n => exact ofNat_full (by simpa using h)
  | negSucc n => exact full_pack (ofNat_full (Nat.succ_ne_zero n)).neg (by decide)

theorem thousandth_full (h : Full (-104) x) :
    Full (-114) (UnpackedFloat.div Format.binary64 x (1000 : Float).toModel.unpack) := by
  have unpacked : (1000 : Float).toModel.unpack =
      .finite .positive (1000 <<< 43) (-43) (by decide) := rfl
  have bits : (1000 <<< 43).log2 = 52 := by decide
  rw [unpacked]
  exact Full.div (e := -43) h bits (by decide)

theorem beq_zero_of_full {f : Float} (h : Full least f.toModel.unpack) : (f == 0) = false := by
  have zero : (0 : Float).toModel.unpack = .zero .positive := rfl
  change (UnpackedFloat.compare f.toModel.unpack (0 : Float).toModel.unpack == some .eq) = false
  rw [zero]
  generalize f.toModel.unpack = x at h ⊢
  cases h with
  | infinity s => cases s <;> rfl
  | @finite s m e positive bits size => cases s <;> rfl

/-- Only of zero the thousandth is zero. -/
theorem thousandth_beq_zero_iff {i : Int} : (Float.ofInt i / 1000 == 0) = true ↔ i = 0 := by
  constructor
  · intro zero
    by_contra nonzero
    have full : Full (-114) (Float.ofInt i / 1000).toModel.unpack :=
      full_pack (thousandth_full (ofInt_full nonzero)) (by decide)
    rw [beq_zero_of_full full] at zero
    cases zero
  · rintro rfl
    rfl

end SeriesScript.Double
