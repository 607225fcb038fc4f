import SeriesScript.Calendar.Rfc3339
import SeriesScript.Evaluation.Bindings
import SeriesScript.Json.Value

/-!
# Reports

As JSON, every value says its type beside its content; time amounts tell how they are counted,
series list their points before their kind. For the terminal, variables are listed in the order in
which they were bound, each series with its points below it, and scope errors are listed one to a
line.

On the terminal a text is wrapped in the code that turns a style on and the code that turns all
styles off. Where the text turns styles off itself, the style is turned on again.
-/
namespace SeriesScript

def TimeAmount.toJson (t : TimeAmount) : Json :=
  .object [
    ("kind", .text (if t.isPeriod then "period" else "duration")),
    ("iso", .text t.render),
    ("seconds",
      match t.seconds with
      | .ok s => .number s
      | .error _ => .null)]

def Point.toJson (p : Point) : Json :=
  .object [
    ("timestamp", .text (Rfc3339.render true p.timestamp)),
    ("value", .number p.value.toFloat),
    ("label", .text p.label)]

def Series.toJson (s : Series) : Json :=
  .object [("points", .list (s.points.map Point.toJson)), ("kind", .text s.kind.keyword)]

private def typedJson (type : String) (content : Json) : Json :=
  .object [("type", .text type), ("value", content)]

def Value.toJson : Value → Json
  | number x => typedJson "number" (.number x.toFloat)
  | time t => typedJson "time" t.toJson
  | series s => typedJson "datapoints" s.toJson
  | reduction r => typedJson "aggregation" (.text r.keyword)
  | text s => typedJson "string" (.text s)

def Bindings.toJson (b : Bindings) : Json :=
  .object (b.toList.map fun (name, v) => (name, v.toJson))

namespace Report

inductive Style where
  | bold
  | dimmed
  | red
  | green
  | cyan
deriving DecidableEq

namespace Style

def code : Style → List Char
  | bold => ['1']
  | dimmed => ['2']
  | red => ['3', '1']
  | green => ['3', '2']
  | cyan => ['3', '6']

def opening (s : Style) : List Char := '\x1b' :: '[' :: s.code ++ ['m']

def reset : List Char := ['\x1b', '[', '0', 'm']

/-- A text with `again` put behind every reset in it. -/
def restore (again : List Char) : List Char → List Char
  | '\x1b' :: '[' :: '0' :: 'm' :: rest => reset ++ again ++ restore again rest
  | c :: rest => c :: restore again rest
  | [] => []

/-- A text in a style, or as it is where colours are off. -/
def paint (colors : Bool) (s : Style) (text : String) : String :=
  if colors then String.ofList (s.opening ++ restore s.opening text.toList ++ reset) else text

end Style

variable (colors : Bool)

def pointLine (p : Point) : String :=
  "  " ++ Style.dimmed.paint colors "•" ++ " " ++ Rfc3339.render false p.timestamp ++ "  " ++
    Decimal.plain.render p.value.toFloat ++
    (if p.label.isEmpty then "" else "  " ++ Style.cyan.paint colors p.label) ++ "\n"

def pointLines : Value → String
  | .series s => String.join (s.points.map (pointLine colors))
  | _ => ""

def variableLines (name : String) (v : Value) : String :=
  Style.bold.paint colors name ++ " = " ++ v.render ++ "\n" ++ pointLines colors v

def bindings (b : Bindings) : String :=
  if b.isEmpty then Style.dimmed.paint colors "•" ++ " No variables\n"
  else String.join (b.toList.map fun (name, v) => variableLines colors name v)

def failureLine (message : String) : String := Style.red.paint colors "✗" ++ " " ++ message ++ "\n"

def scopeErrors (errors : List ScopeError) : String :=
  String.join (errors.map fun e => failureLine colors e.message)

end Report

end SeriesScript
