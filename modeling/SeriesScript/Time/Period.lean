import SeriesScript.Time.Duration

/-!
# Periods

A period counts calendar years, months and days, each a signed 32-bit number. Its mean length takes
a year of 365.2425 days and a month of a twelfth of it.
-/
namespace SeriesScript

structure Period where
  years : Int32
  months : Int32
  days : Int32
deriving DecidableEq, Inhabited

namespace Period

def zero : Period := ⟨0, 0, 0⟩

def component? (n : Int) : Option Int32 :=
  if -2147483648 ≤ n ∧ n ≤ 2147483647 then some (Int32.ofInt n) else none

def ofComponents? (years months days : Int) : Option Period :=
  match component? years, component? months, component? days with
  | some y, some m, some d => some ⟨y, m, d⟩
  | _, _, _ => none

def ofDays (n : Int32) : Period := ⟨0, 0, n⟩

def ofWeeks? (n : Int32) : Option Period := ofComponents? 0 0 (7 * n.toInt)

def ofMonths (n : Int32) : Period := ⟨0, n, 0⟩

def add? (p q : Period) : Option Period :=
  ofComponents? (p.years.toInt + q.years.toInt) (p.months.toInt + q.months.toInt)
    (p.days.toInt + q.days.toInt)

def sub? (p q : Period) : Option Period :=
  ofComponents? (p.years.toInt - q.years.toInt) (p.months.toInt - q.months.toInt)
    (p.days.toInt - q.days.toInt)

def scale? (p : Period) (factor : Int) : Option Period :=
  ofComponents? (p.years.toInt * factor) (p.months.toInt * factor) (p.days.toInt * factor)

def secondsPerDay : Int := 86400

def secondsPerMonth : Int := 2629746

def secondsPerYear : Int := 31556952

def totalSeconds (p : Period) : Int :=
  p.years.toInt * secondsPerYear + p.months.toInt * secondsPerMonth + p.days.toInt * secondsPerDay

/-- The mean length, unless it is too long for a duration. -/
def duration? (p : Period) : Option Duration := Duration.ofSeconds? p.totalSeconds

def totalMonths (p : Period) : Int := 12 * p.years.toInt + p.months.toInt

/-- Years compare first, then months, then days. -/
def atMost (p q : Period) : Bool :=
  p.years < q.years ||
    (p.years == q.years && (p.months < q.months || (p.months == q.months && p.days ≤ q.days)))

def componentText (n : Int32) (letter : Char) : List Char :=
  if n = 0 then []
  else (if n < 0 then ['-'] else []) ++ Nat.toDigits 10 n.toInt.natAbs ++ [letter]

/-- The components that are not zero, each with its letter; `P0D` if all are zero. -/
def renderChars (p : Period) : List Char :=
  if p = zero then ['P', '0', 'D']
  else
    'P' :: componentText p.years 'Y' ++ componentText p.months 'M' ++ componentText p.days 'D'

def render (p : Period) : String := String.ofList p.renderChars

end Period

end SeriesScript
