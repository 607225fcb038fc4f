import SeriesScript.Decimal.Shortest

/-!
# How the digits of a double are laid out

The choice of digits is one and the same for every text; a layout says from where to where the
digits are written positionally, whether a whole number keeps a fraction, and how an exponent is
written outside that range, and which of two equally near digit sequences is taken.
-/
namespace SeriesScript.Decimal

structure Layout where
  /-- The exponents of the leading digit that are written positionally, both included; all of them
  if absent. -/
  positional : Option (Int × Int)
  /-- A whole number written positionally ends in `.0`. -/
  wholeFraction : Bool
  /-- An exponent that is not negative carries a plus sign. -/
  exponentPlus : Bool
  tie : Tie

namespace Layout

def zeros (n : Nat) : List Char := List.replicate n '0'

def positionalText (l : Layout) (digits : List Char) (exponent : Int) : List Char :=
  if 0 ≤ exponent then
    digits ++ zeros exponent.toNat ++ (if l.wholeFraction then ['.', '0'] else [])
  else
    let places := (-exponent).toNat
    if places < digits.length then
      digits.take (digits.length - places) ++ '.' :: digits.drop (digits.length - places)
    else
      '0' :: '.' :: zeros (places - digits.length) ++ digits

def exponentText (l : Layout) (digits : List Char) (leading : Int) : List Char :=
  let fraction := digits.drop 1
  digits.take 1 ++ (if fraction.isEmpty then [] else '.' :: fraction) ++
    'e' :: (if 0 ≤ leading then (if l.exponentPlus then ['+'] else []) else ['-']) ++
    Nat.toDigits 10 leading.natAbs

def magnitudeText (l : Layout) (d : Dyadic) : List Char :=
  if d.mantissa = 0 then
    '0' :: (if l.wholeFraction then ['.', '0'] else [])
  else
    let s := d.shortest l.tie
    let digits := Nat.toDigits 10 s.digits
    let leading := s.exponent + digits.length - 1
    match l.positional with
    | none => l.positionalText digits s.exponent
    | some (least, greatest) =>
      if least ≤ leading ∧ leading ≤ greatest then l.positionalText digits s.exponent
      else l.exponentText digits leading

/-- The text of any double; a NaN shows no sign. -/
def render (l : Layout) (x : Float) : String :=
  match Dyadic.ofFloat? x with
  | some d => String.ofList ((if d.negative then ['-'] else []) ++ l.magnitudeText d)
  | none => if x.isNaN then "NaN" else if 0 < x then "inf" else "-inf"

end Layout

/-- Numbers as they are printed: positionally at any size, whole numbers without a fraction. -/
def plain : Layout := ⟨none, false, false, .larger⟩

/-- Numbers as they are quoted in messages: positionally from 0.0001 up to 10^16. -/
def quoted : Layout := ⟨some (-4, 15), true, false, .larger⟩

/-- Numbers as they are written to JSON: positionally from 0.00001 up to 10^16, and with an even
last digit where two are equally near. -/
def json : Layout := ⟨some (-5, 15), true, true, .even⟩

end SeriesScript.Decimal
