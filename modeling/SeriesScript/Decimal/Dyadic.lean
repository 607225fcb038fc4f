/-!
# Doubles

A decimal is read to the nearest double; its digits are the ten ASCII digits. Every finite double is
`± mantissa · 2 ^ exponent`. Truncation, rounding to whole numbers and the test for a whole number
are exact integer arithmetic on these parts.
-/
namespace SeriesScript.Decimal

def twoTo (n : Nat) : Nat := Nat.pow 2 n

def tenTo (n : Nat) : Nat := Nat.pow 10 n

def isDigit (c : Char) : Bool := '0' ≤ c && c ≤ '9'

def natOfDigits (digits : List Char) : Nat := Nat.ofDigitChars 10 digits 0

/-- The double nearest to `digits · 10 ^ exponent`; too large a number gives infinity. -/
def nearest (digits : Nat) (exponent : Int) : Float :=
  if exponent < 0 then Float.ofScientific digits true exponent.natAbs
  else Float.ofScientific digits false exponent.toNat

/-- The double nearest to `whole.fraction`. -/
def ofDigits (whole fraction : List Char) : Float :=
  nearest (natOfDigits (whole ++ fraction)) (-(fraction.length : Int))

structure Dyadic where
  negative : Bool
  mantissa : Nat
  exponent : Int
deriving DecidableEq

namespace Dyadic

/-- The parts of a double, `none` for an infinity or a NaN. -/
def ofFloat? (x : Float) : Option Dyadic :=
  let bits := x.toBits.toNat
  let negative := twoTo 63 ≤ bits
  let field := bits / twoTo 52 % twoTo 11
  let fraction := bits % twoTo 52
  if field = twoTo 11 - 1 then none
  else if field = 0 then some ⟨negative, fraction, -1074⟩
  else some ⟨negative, twoTo 52 + fraction, Int.ofNat field - 1075⟩

/-- A power of two above the least has its lower neighbour at half the distance of the upper one. -/
def narrowBelow (d : Dyadic) : Bool := d.mantissa == twoTo 52 && -1074 < d.exponent

private def signed (d : Dyadic) (magnitude : Nat) : Int :=
  if d.negative then -(magnitude : Int) else magnitude

/-- The integer next to the number in the direction of zero. -/
def truncate (d : Dyadic) : Int :=
  d.signed (d.mantissa * twoTo d.exponent.toNat / twoTo (-d.exponent).toNat)

/-- The nearest integer; a half goes away from zero. -/
def round (d : Dyadic) : Int :=
  let unit := twoTo (-d.exponent).toNat
  d.signed ((2 * (d.mantissa * twoTo d.exponent.toNat) + unit) / (2 * unit))

def isWhole (d : Dyadic) : Bool := d.mantissa % twoTo (-d.exponent).toNat == 0

end Dyadic

def wholeValue? (x : Float) : Option Int :=
  match Dyadic.ofFloat? x with
  | some d => if d.isWhole then some d.truncate else none
  | none => none

end SeriesScript.Decimal
