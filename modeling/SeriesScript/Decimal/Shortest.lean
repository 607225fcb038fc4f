import SeriesScript.Decimal.Dyadic

/-!
# The fewest decimal digits that read back to a double

The reals that round to a double form an interval, its ends included exactly when the mantissa is
even. For one digit, two digits and so on, the two neighbours of the double on that decimal grid
are tested against the interval in exact integer arithmetic. The first grid with a hit wins; of two
hits the nearer one is taken. At equal distance the text that is written decides between them.
-/
namespace SeriesScript.Decimal

/-- The number `digits · 10 ^ exponent`. -/
structure Scientific where
  digits : Nat
  exponent : Int
deriving DecidableEq

namespace Scientific

/-- The same number with its trailing zeros moved into the exponent, at most `fuel` of them. -/
def strip (s : Scientific) : Nat → Scientific
  | 0 => s
  | fuel + 1 =>
    if s.digits ≠ 0 ∧ s.digits % 10 = 0 then
      (Scientific.mk (s.digits / 10) (s.exponent + 1)).strip fuel
    else s

end Scientific

/-- Which of two decimals at equal distance is taken: the larger, or the one whose last digit is
even. -/
inductive Tie where
  | larger
  | even
deriving DecidableEq

namespace Dyadic

/-- Whether `mantissa · 2 ^ exponent < 10 ^ k`. -/
def belowPower (d : Dyadic) (k : Int) : Bool :=
  d.mantissa * twoTo d.exponent.toNat * tenTo (-k).toNat < tenTo k.toNat * twoTo (-d.exponent).toNat

/-- The least `k` with `mantissa · 2 ^ exponent < 10 ^ k`, for a mantissa that is not zero. The
binary logarithm gives an estimate that is never too large and at most two too small. -/
def magnitude (d : Dyadic) : Int :=
  let low := ((d.mantissa.log2 : Int) + d.exponent) * 30103 / 100000
  if d.belowPower low then low
  else if d.belowPower (low + 1) then low + 1
  else low + 2

/-- The best point of the grid `10 ^ exponent` that rounds to the number, if one of the two
neighbours of the number does. -/
def onGrid (tie : Tie) (d : Dyadic) (exponent : Int) : Option Scientific :=
  let scale := twoTo (d.exponent - 2).toNat * tenTo (-exponent).toNat
  let unit := twoTo (2 - d.exponent).toNat * tenTo exponent.toNat
  let value := 4 * d.mantissa * scale
  let low := (4 * d.mantissa - (if d.narrowBelow then 1 else 2)) * scale
  let high := (4 * d.mantissa + 2) * scale
  let closed := d.mantissa % 2 == 0
  let inside (n : Nat) : Bool :=
    (low < n * unit || (closed && low == n * unit)) &&
      (n * unit < high || (closed && n * unit == high))
  let below := value / unit
  match inside below, inside (below + 1) with
  | true, true =>
    let middle := (2 * below + 1) * unit
    if 2 * value < middle || (2 * value == middle && tie == .even && below % 2 == 0) then
      some ⟨below, exponent⟩
    else some ⟨below + 1, exponent⟩
  | true, false => some ⟨below, exponent⟩
  | false, true => some ⟨below + 1, exponent⟩
  | false, false => none

/-- The fewest digits that read back, for a mantissa that is not zero. -/
def shortest (d : Dyadic) (tie : Tie) : Scientific :=
  let k := d.magnitude
  match (List.range 18).findSome? (fun n => d.onGrid tie (k - (n + 1 : Nat))) with
  | some s => s.strip 20
  | none =>
    ⟨d.mantissa * Nat.pow 5 (-d.exponent).toNat * twoTo d.exponent.toNat, min d.exponent 0⟩

end Dyadic

end SeriesScript.Decimal
