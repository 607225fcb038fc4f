import SeriesScript.Series.Operations
import SeriesScript.Value
import SeriesScript.Window.Bin
import SeriesScript.Window.Fixed

/-!
# Functions

The functions a script can call. A call is prepared from its arguments alone, which finds every
fault of their number, types and kinds; a prepared call then always gives a series, except that
fixed windows can run out of the calendar. Arguments are checked from left to right.
-/
namespace SeriesScript

inductive Function where
  | delta
  | accumulate
  | derivative
  | timeBetween
  | timeBetween2
  | filter
  | exclude
  | merge
  | moving
  | bin
deriving DecidableEq

namespace Function

def all : List Function :=
  [delta, accumulate, derivative, timeBetween, timeBetween2, filter, exclude, merge, moving, bin]

def name : Function → String
  | delta => "Delta"
  | accumulate => "Accumulate"
  | derivative => "Derivative"
  | timeBetween => "TimeBetween"
  | timeBetween2 => "TimeBetween2"
  | filter => "Filter"
  | exclude => "Exclude"
  | merge => "Merge"
  | moving => "Moving"
  | bin => "Bin"

def ofName? (name : String) : Option Function := all.find? (·.name == name)

end Function

/-- A call whose arguments are all right. -/
inductive Invocation where
  | delta (data : Series)
  | accumulate (data : Series)
  /-- The change per a number of seconds. -/
  | derivative (data : Series) (per : Number)
  | timeBetween (data : Series)
  | timeBetween2 (data references : Series)
  /-- Keeps the points with one of the labels, or all others. -/
  | select (keep : Bool) (data : Series) (labels : List String)
  | merge (kind : Kind) (inputs : List Series)
  | moving (data : Series) (r : Reduction) (window : Duration)
  | bin (data : Series) (r : Reduction) (window : TimeAmount) (fallback : Option Number)

/-- The arguments of a call, for messages together with the name of the function. -/
structure Arguments where
  function : String
  values : List Value

namespace Arguments

variable (a : Arguments)

def missing (index : Nat) (expected : ValueType) : ScriptError :=
  .argumentMissing a.function index expected

def wrongType (index : Nat) (expected : ValueType) (actual : Value) : ScriptError :=
  .argumentType a.function index expected actual.valueType

def series (index : Nat) : Except ScriptError Series :=
  match a.values[index]? with
  | some (.series s) => .ok s
  | some v => .error (a.wrongType index .series v)
  | none => .error (a.missing index .series)

def time (index : Nat) : Except ScriptError TimeAmount :=
  match a.values[index]? with
  | some (.time t) => .ok t
  | some v => .error (a.wrongType index .time v)
  | none => .error (a.missing index .time)

def reduction (index : Nat) : Except ScriptError Reduction :=
  match a.values[index]? with
  | some (.reduction r) => .ok r
  | some v => .error (a.wrongType index .reduction v)
  | none => .error (a.missing index .reduction)

def number? (index : Nat) : Except ScriptError (Option Number) :=
  match a.values[index]? with
  | some (.number x) => .ok (some x)
  | some v => .error (a.wrongType index .number v)
  | none => .ok none

def atMost (most : Nat) : Except ScriptError Unit :=
  if most < a.values.length then
    .error (.tooManyArguments a.function most a.values.length)
  else .ok ()

def ensureKind (allowed : List Kind) (s : Series) : Except ScriptError Unit :=
  if allowed.contains s.kind then .ok () else .error (.wrongKind allowed s.kind)

def seriesOf (allowed : List Kind) (index : Nat) : Except ScriptError Series := do
  let s ← a.series index
  ensureKind allowed s
  return s

/-- The texts among the last arguments, all of which have to be texts. -/
def textsFrom (index : Nat) : List Value → Except ScriptError (List String)
  | [] => .ok []
  | .text s :: rest => do
    let texts ← textsFrom (index + 1) rest
    return s :: texts
  | v :: _ => .error (a.wrongType index .text v)

def texts (index : Nat) : Except ScriptError (List String) :=
  if a.values.length ≤ index then .error (a.missing index .text)
  else a.textsFrom index (a.values.drop index)

/-- All given arguments as series of one kind. -/
def seriesFrom (kind : Kind) (index : Nat) : List Value → Except ScriptError (List Series)
  | [] => .ok []
  | .series s :: rest => do
    ensureKind [kind] s
    let others ← seriesFrom kind (index + 1) rest
    return s :: others
  | v :: _ => .error (a.wrongType index .series v)

end Arguments

namespace Function

/-- The kinds of series with values that can be computed with. -/
def measured : List Kind := [.numerical, .time]

def prepare (f : Function) (values : List Value) : Except ScriptError Invocation :=
  let a : Arguments := ⟨f.name, values⟩
  match f with
  | delta => do
    let data ← a.seriesOf measured 0
    a.atMost 1
    return .delta data
  | accumulate => do
    let data ← a.seriesOf measured 0
    a.atMost 1
    return .accumulate data
  | derivative => do
    let data ← a.seriesOf measured 0
    let per ← a.time 1
    match per.seconds with
    | .error fault => .error (.invalidArgument fault)
    | .ok seconds =>
      a.atMost 2
      return .derivative data (.ofFloat seconds)
  | timeBetween => do
    let data ← a.series 0
    a.atMost 1
    return .timeBetween data
  | timeBetween2 => do
    let data ← a.series 0
    let references ← a.series 1
    a.atMost 2
    return .timeBetween2 data references
  | filter => do
    let data ← a.seriesOf [.categorical] 0
    let labels ← a.texts 1
    return .select true data labels
  | exclude => do
    let data ← a.seriesOf [.categorical] 0
    let labels ← a.texts 1
    return .select false data labels
  | merge => do
    let first ← a.series 0
    let _ ← a.series 1
    let inputs ← a.seriesFrom first.kind 0 values
    return .merge first.kind inputs
  | moving => do
    let data ← a.seriesOf measured 0
    let r ← a.reduction 1
    let window ← a.time 2
    a.atMost 3
    let length ← Window.positiveLength window
    return .moving data r length
  | bin => do
    let data ← a.seriesOf measured 0
    let r ← a.reduction 1
    let window ← a.time 2
    let fallback ← a.number? 3
    a.atMost 4
    let _ ← Window.positiveLength window
    return .bin data r window fallback

end Function

namespace Invocation

/-- A count is a plain number whatever was counted. -/
def resultKind (r : Reduction) (kind : Kind) : Kind :=
  match r with
  | .count => .numerical
  | _ => kind

/-- The result of a prepared call. Fixed windows begin no later than `hardStart`. -/
def perform (prefs : Window.Preferences) (hardStart : Option Timestamp) :
    Invocation → Except ScriptError Series
  | delta data => .ok ⟨Series.differences Series.differenceSeed data.points, data.kind⟩
  | accumulate data => .ok ⟨Series.runningSums (.ofFloat 0) data.points, data.kind⟩
  | derivative data per => .ok ⟨Series.slopes per data.points, data.kind⟩
  | timeBetween data => .ok ⟨Series.gaps data.points, .time⟩
  | timeBetween2 data references =>
    .ok ⟨Series.timeToReference data.points references.points, .time⟩
  | select keep data labels => .ok ⟨Series.select keep labels data.points, data.kind⟩
  | merge kind inputs => .ok ⟨Series.merge (inputs.map (·.points)), kind⟩
  | moving data r window =>
    .ok ⟨Bin.reduceAll r none (Window.trailing window data.points), resultKind r data.kind⟩
  | bin data r window fallback =>
    match Window.fixed window prefs hardStart data.points with
    | .ok bins => .ok ⟨Bin.reduceAll r fallback bins, resultKind r data.kind⟩
    | .error e => .error e

end Invocation

def callFunction (prefs : Window.Preferences) (hardStart : Option Timestamp) (name : String)
    (values : List Value) : Except ScriptError Value :=
  match Function.ofName? name with
  | none => .error (.unknownFunction name)
  | some f =>
    match f.prepare values with
    | .error e => .error e
    | .ok invocation =>
      match invocation.perform prefs hardStart with
      | .ok s => .ok (.series s)
      | .error e => .error e

end SeriesScript
