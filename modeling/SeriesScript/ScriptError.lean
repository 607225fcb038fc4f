import SeriesScript.Language.SyntaxError
import SeriesScript.Scope
import SeriesScript.Series.Point
import SeriesScript.Time.Amount

/-!
# Script errors

Everything that can keep a script from a result.
-/
namespace SeriesScript

/-- The types of values that messages name. -/
inductive ValueType where
  | number
  | time
  | series
  | reduction
  | text
deriving DecidableEq

def ValueType.name : ValueType → String
  | number => "Number"
  | time => "Time"
  | series => "Datapoints"
  | reduction => "AggregationFunction"
  | text => "String"

inductive ScriptError where
  | notParsed (e : SyntaxError)
  /-- The script was refused before it ran. -/
  | invalid (errors : List ScopeError)
  | doubleDeclaration (name : String) (span : Span)
  | notDeclared (name : String) (span : Span)
  | unknownFunction (name : String)
  | argumentMissing (function : String) (index : Nat) (expected : ValueType)
  | argumentType (function : String) (index : Nat) (expected actual : ValueType)
  | tooManyArguments (function : String) (most actual : Nat)
  | wrongKind (expected : List Kind) (actual : Kind)
  | unsupportedOperands (op : BinaryOp) (left right : ValueType)
  | invalidArgument (fault : ArgumentFault)
  | streamFailed (name message : String)
  /-- A timestamp was shifted beyond the calendar; such a run has no answer. -/
  | calendarExceeded

namespace ScriptError

private def kindList (kinds : List Kind) : String :=
  "[" ++ ", ".intercalate (kinds.map Kind.name) ++ "]"

def message : ScriptError → String
  | notParsed e => e.message
  | invalid errors =>
    "Script is invalid: " ++ toString errors.length ++ " validation error(s)"
  | doubleDeclaration name span => (ScopeError.mk .doubleDeclaration name span).message
  | notDeclared name span => (ScopeError.mk .notDeclared name span).message
  | unknownFunction name => "Unknown function '" ++ name ++ "'"
  | argumentMissing function index expected =>
    "Missing argument for function '" ++ function ++ "'. Expected an argument of type " ++
      expected.name ++ " at position " ++ toString (index + 1)
  | argumentType function index expected actual =>
    "Argument " ++ toString (index + 1) ++ " of function '" ++ function ++ "' has to be of type " ++
      expected.name ++ ", but was of type " ++ actual.name
  | tooManyArguments function most actual =>
    "Function '" ++ function ++ "' takes at most " ++ toString most ++ " argument(s), got " ++
      toString actual
  | wrongKind expected actual =>
    "The data has to be of type " ++ kindList expected ++ ", but was of type " ++ actual.name
  | unsupportedOperands op left right =>
    "Operator '" ++ op.symbol ++ "' is not supported between " ++ left.name ++ " and " ++ right.name
  | invalidArgument fault => "Invalid argument: " ++ fault.message
  | streamFailed name message => "Stream '" ++ name ++ "' failed: " ++ message
  | calendarExceeded => "A timestamp lies beyond the calendar"

end ScriptError

end SeriesScript
