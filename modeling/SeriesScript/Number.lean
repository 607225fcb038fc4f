/-!
# Numbers

The numbers of scripts and points are doubles. Of the bits of a NaN only the sign is kept: no text
shows it and no comparison sees it, but the rank of a number, its place in the order of all doubles,
depends on it. NaNs that differ in their payload alone are one number here; in the order of all
doubles they stand next to each other, apart by their payloads.

Which sign a NaN gets is left open by the arithmetic of doubles. These are the rules of x86
processors: an operation that has no result, such as zero divided by zero, gives a NaN with a minus
sign, and an operation on a NaN passes it on, the first one of two.
-/
namespace SeriesScript

structure Number where
  toFloat : Float
  /-- Set for a NaN with a minus sign, and for nothing else. -/
  negativeNaN : Bool
deriving Inhabited

namespace Number

/-- A double as a number; a NaN gets a plus sign. -/
def ofFloat (x : Float) : Number := ⟨x, false⟩

def isNaN (a : Number) : Bool := a.toFloat.isNaN

def negate (a : Number) : Number := ⟨-a.toFloat, a.isNaN && !a.negativeNaN⟩

def operate (f : Float → Float → Float) (a b : Number) : Number :=
  if a.isNaN then a
  else if b.isNaN then b
  else
    let x := f a.toFloat b.toFloat
    ⟨x, x.isNaN⟩

instance : Add Number := ⟨operate (· + ·)⟩

instance : Sub Number := ⟨operate (· - ·)⟩

instance : Mul Number := ⟨operate (· * ·)⟩

instance : Div Number := ⟨operate (· / ·)⟩

/-- Equality of numbers: a NaN equals nothing, and the two zeros are equal. -/
instance : BEq Number := ⟨fun a b => a.toFloat == b.toFloat⟩

/-- The place of a number among all doubles: NaNs with a minus sign, negative numbers from large to
small, `-0`, `0`, positive numbers, the other NaNs. -/
def rank (a : Number) : Int :=
  if a.isNaN then
    if a.negativeNaN then -9223372036854775808 else 9223372036854775808
  else
    let bits := a.toFloat.toBits.toNat
    if bits < 9223372036854775808 then bits else 9223372036854775807 - (bits : Int)

/-- The smaller of two numbers; a NaN gives way to the other. -/
def lesser (a b : Number) : Number :=
  if a.isNaN then b else if b.isNaN then a else if b.toFloat < a.toFloat then b else a

/-- The larger of two numbers; a NaN gives way to the other. -/
def greater (a b : Number) : Number :=
  if a.isNaN then b else if b.isNaN then a else if a.toFloat < b.toFloat then b else a

end Number

end SeriesScript
