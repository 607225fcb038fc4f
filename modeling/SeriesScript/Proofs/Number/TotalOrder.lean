import SeriesScript.Number
import SeriesScript.Proofs.Decimal.Fields

/-!
# The order of all doubles

A NaN with a minus sign stands in front of every other number, a NaN with a plus sign behind them
all. The others stand by value, and of the two zeros `-0` is the first. The rank of a number, which
is read off its bits, is its place in this order.
-/
namespace SeriesScript.Number

open Double Float.Model.UnpackedFloat

variable {a b : Number}

/-- The first number stands in front of the second among all doubles. -/
def Precedes (a b : Number) : Prop :=
  if a.isNaN then a.negativeNaN ∧ ¬ (b.isNaN ∧ b.negativeNaN)
  else if b.isNaN then ¬ b.negativeNaN
  else a.toFloat < b.toFloat ∨ a.toFloat = -0.0 ∧ b.toFloat = 0.0
deriving Decidable

/-! ## The rank of a stored double -/

/-- Negative doubles rank below the others, and in the opposite order of their bits. -/
def signedRank : Sign → Int → Int
  | .positive, k => k
  | .negative, k => -1 - k

theorem rank_of_number (number : a.isNaN = false) : a.rank =
    if a.toFloat.toBits.toNat < 9223372036854775808 then (a.toFloat.toBits.toNat : Int)
    else 9223372036854775807 - (a.toFloat.toBits.toNat : Int) := by
  simp only [rank, number, Bool.false_eq_true, ↓reduceIte]

theorem rank_of_nan (nan : a.isNaN = true) :
    a.rank = if a.negativeNaN then -9223372036854775808 else 9223372036854775808 := if_pos nan

theorem exists_stored (number : a.isNaN = false) :
    ∃ s k, Stored s k a.toFloat.toModel.unpack ∧ a.rank = signedRank s k := by
  let bits : BitVec Float.Model.Format.binary64.numBits := a.toFloat.toModel.toBits.toBitVec
  have stored : Stored (.ofBitVec (unpackSign bits)) (belowSign bits) a.toFloat.toModel.unpack :=
    stored_unpack bits number
  have size := stored.bounds
  have whole : a.toFloat.toBits.toNat = (unpackSign bits).toNat * 2 ^ 63 + belowSign bits :=
    toNat_eq_sign_belowSign bits
  refine ⟨_, _, stored, ?_⟩
  rw [rank_of_number number, whole]
  -- the sign decides on which side of the middle of all bit patterns the double is
  rcases BitVec.eq_zero_or_eq_one (unpackSign bits) with plus | minus
  · have positive : Sign.ofBitVec (unpackSign bits) = .positive := by rw [plus]; rfl
    have clear : (unpackSign bits).toNat = 0 := congrArg BitVec.toNat plus
    rw [positive, clear, signedRank]
    split <;> omega
  · have negative : Sign.ofBitVec (unpackSign bits) = .negative := by rw [minus]; rfl
    have set : (unpackSign bits).toNat = 1 := congrArg BitVec.toNat minus
    rw [negative, set, signedRank]
    split <;> omega

theorem rank_bounds (number : a.isNaN = false) :
    -9223372036854775808 < a.rank ∧ a.rank < 9223372036854775808 := by
  obtain ⟨s, k, stored, rank⟩ := exists_stored number
  have size := stored.bounds
  rw [rank]
  cases s <;> simp only [signedRank] <;> omega

/-! ## The two zeros -/

theorem toFloat_eq_iff {x y : Float} : x = y ↔ x.toBits.toNat = y.toBits.toNat := by
  constructor
  · exact congrArg fun z : Float => z.toBits.toNat
  · intro same
    obtain ⟨⟨bits, valid⟩⟩ := x
    obtain ⟨⟨others, validOthers⟩⟩ := y
    obtain rfl : bits = others := UInt64.toNat_inj.mp same
    rfl

theorem eq_negative_zero_iff (number : a.isNaN = false) : a.toFloat = -0.0 ↔ a.rank = -1 := by
  have minus : (-0.0 : Float).toBits.toNat = 9223372036854775808 := rfl
  have fits := a.toFloat.toBits.toNat_lt
  rw [toFloat_eq_iff, minus, rank_of_number number]
  split <;> omega

theorem eq_zero_iff (number : a.isNaN = false) : a.toFloat = 0.0 ↔ a.rank = 0 := by
  have plus : (0.0 : Float).toBits.toNat = 0 := rfl
  have fits := a.toFloat.toBits.toNat_lt
  rw [toFloat_eq_iff, plus, rank_of_number number]
  split <;> omega

/-! ## The order -/

theorem number_precedes_iff (first : a.isNaN = false) (second : b.isNaN = false) :
    a.toFloat < b.toFloat ∨ a.toFloat = -0.0 ∧ b.toFloat = 0.0 ↔ a.rank < b.rank := by
  rw [eq_negative_zero_iff first, eq_zero_iff second]
  obtain ⟨s, j, storedFirst, rankFirst⟩ := exists_stored first
  obtain ⟨t, k, storedSecond, rankSecond⟩ := exists_stored second
  have less : a.toFloat < b.toFloat ↔ s.apply j < t.apply k :=
    decide_eq_true_iff.trans (storedFirst.lt_iff storedSecond)
  have sizeFirst := storedFirst.bounds
  have sizeSecond := storedSecond.bounds
  rw [less, rankFirst, rankSecond]
  cases s <;> cases t <;> simp only [signedRank, Sign.apply] <;> omega

/-- Numbers rank as they stand among all doubles. -/
theorem precedes_iff_rank_lt : a.Precedes b ↔ a.rank < b.rank := by
  rw [Precedes]
  cases first : a.isNaN <;> cases second : b.isNaN
  · exact number_precedes_iff first second
  · have bounds := rank_bounds first
    rw [rank_of_nan second]
    grind
  · have bounds := rank_bounds second
    rw [rank_of_nan first]
    grind
  · rw [rank_of_nan first, rank_of_nan second]
    grind

theorem not_precedes_iff : ¬ a.Precedes b ↔ b.rank ≤ a.rank := by
  rw [precedes_iff_rank_lt, Int.not_lt]

@[simp] theorem not_precedes_self : ¬ a.Precedes a :=
  not_precedes_iff.mpr (Int.le_refl _)

end SeriesScript.Number
