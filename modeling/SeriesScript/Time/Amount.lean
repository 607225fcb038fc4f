import SeriesScript.Time.Period
import SeriesScript.Time.Unit

/-!
# Time amounts

A time amount is a calendar period or an exact duration. Periods stay periods under addition,
subtraction and scaling by whole numbers of at most 31 bits; everything else resolves them to their
mean length. Two amounts are equal when their lengths are.
-/
namespace SeriesScript

/-- Why an operator or a function cannot work with values of the right types. -/
inductive ArgumentFault where
  | timeOutOfRange
  | timeDividedByZero
  | ratioToZeroTime
  | dataDividedByZeroTime
  | windowNotPositive
  | windowOutOfRange
  /-- A fault that a stream reports in its own words. -/
  | reported (message : String)
deriving DecidableEq

def ArgumentFault.message : ArgumentFault → String
  | timeOutOfRange => "time amount out of range"
  | timeDividedByZero => "cannot divide a time amount by zero"
  | ratioToZeroTime => "cannot divide by a zero time amount"
  | dataDividedByZeroTime => "cannot divide data by a zero time amount"
  | windowNotPositive => "window must be positive"
  | windowOutOfRange => "window out of range"
  | reported message => message

inductive TimeAmount where
  | period (p : Period)
  | duration (d : Duration)
deriving Inhabited

namespace TimeAmount

def ofUnit : TimeUnit → TimeAmount
  | .second => duration .second
  | .minute => duration .minute
  | .hour => duration .hour
  | .day => period ⟨0, 0, 1⟩
  | .week => period ⟨0, 0, 7⟩
  | .month => period ⟨0, 1, 0⟩
  | .year => period ⟨1, 0, 0⟩

def isPeriod : TimeAmount → Bool
  | period _ => true
  | duration _ => false

/-- The exact length of a duration, the mean length of a period. -/
def length? : TimeAmount → Option Duration
  | period p => p.duration?
  | duration d => some d

/-- A result, or the fault of a time amount that is out of range. -/
def inRange {α : Type} : Option α → Except ArgumentFault α
  | some a => .ok a
  | none => .error .timeOutOfRange

def resolve (t : TimeAmount) : Except ArgumentFault Duration := inRange t.length?

def seconds (t : TimeAmount) : Except ArgumentFault Float := t.resolve.map (·.seconds)

/-- A period that has a length. -/
def resolvable? (p : Option Period) : Option TimeAmount :=
  match p with
  | some p => if p.duration?.isSome then some (period p) else none
  | none => none

/-- An operation on the lengths of two amounts. -/
def combine? (op : Duration → Duration → Option Duration) (a b : TimeAmount) : Option TimeAmount :=
  match a.length?, b.length? with
  | some x, some y => (op x y).map duration
  | _, _ => none

def add? : TimeAmount → TimeAmount → Option TimeAmount
  | period p, period q => resolvable? (p.add? q)
  | a, b => combine? Duration.add? a b

def sub? : TimeAmount → TimeAmount → Option TimeAmount
  | period p, period q => resolvable? (p.sub? q)
  | a, b => combine? Duration.sub? a b

def add (a b : TimeAmount) : Except ArgumentFault TimeAmount := inRange (a.add? b)

def sub (a b : TimeAmount) : Except ArgumentFault TimeAmount := inRange (a.sub? b)

/-- The duration of a number of seconds that was computed from a length. -/
def ofSeconds (x : Float) : Except ArgumentFault TimeAmount :=
  inRange ((Duration.ofFloat? x).map duration)

/-- The whole number, of at most 31 bits, that a factor is. -/
def wholeFactor? (factor : Float) : Option Int :=
  match Decimal.wholeValue? factor with
  | some n => if n.natAbs ≤ 2147483647 then some n else none
  | none => none

/-- A multiple of the length. -/
def scaleLength (t : TimeAmount) (factor : Float) : Except ArgumentFault TimeAmount :=
  match t.seconds with
  | .ok s => ofSeconds (s * factor)
  | .error e => .error e

/-- A multiple; a whole multiple of a period is a period. -/
def scale (t : TimeAmount) (factor : Float) : Except ArgumentFault TimeAmount :=
  match t, wholeFactor? factor with
  | period p, some n => inRange (resolvable? (p.scale? n))
  | _, _ => t.scaleLength factor

/-- A fraction, always a duration. -/
def divide (t : TimeAmount) (divisor : Float) : Except ArgumentFault TimeAmount :=
  if divisor == 0 then .error .timeDividedByZero
  else
    match t.seconds with
    | .ok s => ofSeconds (s / divisor)
    | .error e => .error e

/-- How many times the second amount goes into the first. -/
def ratio (t divisor : TimeAmount) : Except ArgumentFault Float :=
  match divisor.seconds with
  | .ok d =>
    if d == 0 then .error .ratioToZeroTime
    else
      match t.seconds with
      | .ok s => .ok (s / d)
      | .error e => .error e
  | .error e => .error e

/-- Equal lengths; periods too long to have a length are equal when their components are. -/
def same (a b : TimeAmount) : Bool :=
  match a.length?, b.length? with
  | some x, some y => x == y
  | _, _ =>
    match a, b with
    | period p, period q => p == q
    | _, _ => false

def render : TimeAmount → String
  | period p => p.render
  | duration d => d.render

end TimeAmount

end SeriesScript
