import SeriesScript.Decimal.Dyadic

/-!
# Reading JSON numbers

The digits of a number are collected while they fit 64 bits; later ones only move the point. The
collected number is then multiplied or divided once by a power of ten, so the result can lie a
little beside the nearest double. A number too large for a double is read as an infinity.
-/
namespace SeriesScript.Json

/-- Digits collected so far, the power of ten they are to be multiplied with, and whether a digit
was already left out. -/
structure Collected where
  digits : Nat
  exponent : Int
  full : Bool

namespace Collected

def largest : Nat := 18446744073709551615

/-- The next digit before the point. Once one digit does not fit, no later one is kept. -/
def whole (c : Collected) (digit : Nat) : Collected :=
  if c.full ∨ largest < c.digits * 10 + digit then ⟨c.digits, c.exponent + 1, true⟩
  else ⟨c.digits * 10 + digit, c.exponent, false⟩

def fraction (c : Collected) (digit : Nat) : Collected :=
  if c.full ∨ largest < c.digits * 10 + digit then ⟨c.digits, c.exponent, true⟩
  else ⟨c.digits * 10 + digit, c.exponent - 1, false⟩

end Collected

def digitValue (c : Char) : Nat := c.toNat - '0'.toNat

def powerOfTen (n : Nat) : Float := Float.ofScientific 1 false n

/-- A number times a power of ten, by one operation if the power is a double. -/
def timesPower (x : Float) (exponent : Int) : Float :=
  if x == 0 then x
  else if 308 < exponent then 1 / 0
  else if 0 ≤ exponent then x * powerOfTen exponent.toNat
  else if -308 ≤ exponent then x / powerOfTen exponent.natAbs
  else if -616 ≤ exponent then x / powerOfTen 308 / powerOfTen (exponent + 308).natAbs
  else 0

def Collected.value (c : Collected) (written : Int) : Float :=
  timesPower (Float.ofNat c.digits) (c.exponent + written)

/-- The exponent part at the head of a text, zero if there is none. -/
def readExponent : List Char → Option (Int × List Char)
  | c :: cs =>
    if c = 'e' ∨ c = 'E' then
      let (negative, rest) := match cs with
        | '+' :: ds => (false, ds)
        | '-' :: ds => (true, ds)
        | ds => (false, ds)
      let digits := rest.takeWhile Decimal.isDigit
      if digits.isEmpty then none
      else
        let n : Int := Decimal.natOfDigits digits
        some (if negative then -n else n, rest.drop digits.length)
    else some (0, c :: cs)
  | [] => some (0, [])

/-- The digits before the point: a single zero, or digits that do not start with one. -/
def readWhole (cs : List Char) : Option (List Char × List Char) :=
  match cs.span Decimal.isDigit with
  | ([], _) => none
  | ('0' :: _ :: _, _) => none
  | (digits, rest) => some (digits, rest)

def readDecimals : List Char → Option (List Char × List Char)
  | '.' :: cs =>
    match cs.span Decimal.isDigit with
    | ([], _) => none
    | (digits, rest) => some (digits, rest)
  | cs => some ([], cs)

def readMagnitude (cs : List Char) : Option (Float × List Char) := do
  let (whole, cs) ← readWhole cs
  let (decimals, cs) ← readDecimals cs
  let (exponent, cs) ← readExponent cs
  let start : Collected := ⟨0, 0, false⟩
  let before := whole.foldl (fun (c : Collected) d => c.whole (digitValue d)) start
  let all := decimals.foldl (fun (c : Collected) d => c.fraction (digitValue d))
    { before with full := false }
  return (all.value exponent, cs)

def readNumber : List Char → Option (Float × List Char)
  | '-' :: cs => (readMagnitude cs).map fun (x, rest) => (-x, rest)
  | cs => readMagnitude cs

end SeriesScript.Json
