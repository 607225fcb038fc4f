import SeriesScript.Decimal.Layout
import SeriesScript.ScriptError
import SeriesScript.Text.Quoted
import SeriesScript.Time.Amount

/-!
# Values

The values of expressions, and the operators on them. An operator on a series works on each of its
points. A series divided by a time amount is a series of numbers, one multiplied by a time amount a
series of times; all other operators keep the kind.
-/
namespace SeriesScript

inductive Value where
  | number (x : Number)
  | time (t : TimeAmount)
  | series (s : Series)
  | reduction (r : Reduction)
  | text (s : String)
deriving Inhabited

namespace Value

def valueType : Value → ValueType
  | number _ => .number
  | time _ => .time
  | series _ => .series
  | reduction _ => .reduction
  | text _ => .text

def series? : Value → Option Series
  | series s => some s
  | _ => none

def number? : Value → Option Number
  | number x => some x
  | _ => none

/-- A result on time amounts as a result of the script. -/
def lift {α : Type} (result : Except ArgumentFault α) (f : α → Value) : Except ScriptError Value :=
  match result with
  | .ok a => .ok (f a)
  | .error fault => .error (.invalidArgument fault)

/-- The series with every value divided by a time amount, in seconds. -/
def divideByTime (s : Series) (t : TimeAmount) : Except ScriptError Value :=
  match t.seconds with
  | .error fault => .error (.invalidArgument fault)
  | .ok seconds =>
    if seconds == 0 then .error (.invalidArgument .dataDividedByZeroTime)
    else .ok (series (s.mapValues (· / .ofFloat seconds) .numerical))

def multiplyByTime (s : Series) (t : TimeAmount) : Except ScriptError Value :=
  lift t.seconds fun seconds => series (s.mapValues (· * .ofFloat seconds) .time)

def apply (op : BinaryOp) (left right : Value) : Except ScriptError Value :=
  match op, left, right with
  | .add, number a, number b => .ok (number (a + b))
  | .subtract, number a, number b => .ok (number (a - b))
  | .multiply, number a, number b => .ok (number (a * b))
  | .divide, number a, number b => .ok (number (a / b))
  | .add, time a, time b => lift (a.add b) time
  | .subtract, time a, time b => lift (a.sub b) time
  | .multiply, time t, number x => lift (t.scale x.toFloat) time
  | .multiply, number x, time t => lift (t.scale x.toFloat) time
  | .divide, time t, number x => lift (t.divide x.toFloat) time
  | .divide, time a, time b => lift (a.ratio b) fun x => number (.ofFloat x)
  | .add, series s, number x => .ok (series (s.mapValues (· + x) s.kind))
  | .add, number x, series s => .ok (series (s.mapValues (· + x) s.kind))
  | .subtract, series s, number x => .ok (series (s.mapValues (· - x) s.kind))
  | .multiply, series s, number x => .ok (series (s.mapValues (· * x) s.kind))
  | .multiply, number x, series s => .ok (series (s.mapValues (· * x) s.kind))
  | .divide, series s, number x => .ok (series (s.mapValues (· / x) s.kind))
  | .divide, series s, time t => divideByTime s t
  | .multiply, series s, time t => multiplyByTime s t
  | .multiply, time t, series s => multiplyByTime s t
  | op, left, right => .error (.unsupportedOperands op left.valueType right.valueType)

/-- Equal values; the kind of a series does not count. -/
def same : Value → Value → Bool
  | number a, number b => a == b
  | time a, time b => a.same b
  | series a, series b => samePoints a.points b.points
  | reduction a, reduction b => a == b
  | text a, text b => a == b
  | _, _ => false

def render : Value → String
  | number x => Decimal.plain.render x.toFloat
  | time t => t.render
  | series s => "Datapoints(" ++ s.kind.name ++ ", " ++ toString s.points.length ++ " points)"
  | reduction r => r.keyword
  | text s => Text.quote s

end Value

end SeriesScript
