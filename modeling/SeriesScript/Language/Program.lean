import SeriesScript.Reduction
import SeriesScript.Source.Position
import SeriesScript.Time.Unit

/-!
# Programs

A program is a list of statements, one to a line. Every statement and every expression carries its
span, unless the text was read without recording positions.
-/
namespace SeriesScript

inductive BinaryOp where
  | add
  | subtract
  | multiply
  | divide
deriving DecidableEq, Inhabited

def BinaryOp.symbol : BinaryOp → String
  | add => "+"
  | subtract => "-"
  | multiply => "*"
  | divide => "/"

inductive Literal where
  | integer (n : Int64)
  | decimal (x : Float)
  | text (s : String)
  | unit (u : TimeUnit)
  | reduction (r : Reduction)
deriving Inhabited

inductive Expr where
  | literal (value : Literal) (span : Option Span)
  | reference (name : String) (span : Option Span)
  | binary (op : BinaryOp) (left right : Expr) (span : Option Span)
  | call (function : String) (args : List Expr) (span : Option Span)
deriving Inhabited

namespace Expr

def span : Expr → Option Span
  | literal _ span => span
  | reference _ span => span
  | binary _ _ _ span => span
  | call _ _ span => span

/-- The span over two spans, if both are known. -/
def mergeSpans : Option Span → Option Span → Option Span
  | some a, some b => some (a.merge b)
  | _, _ => none

/-- An operation on two expressions; its span covers both. -/
def join (left : Expr) (op : BinaryOp) (right : Expr) : Expr :=
  binary op left right (mergeSpans left.span right.span)

end Expr

structure Reference where
  name : String
  span : Option Span
deriving DecidableEq, Inhabited

mutual

def Expr.references : Expr → List Reference
  | .literal _ _ => []
  | .reference name span => [⟨name, span⟩]
  | .binary _ left right _ => left.references ++ right.references
  | .call _ args _ => Expr.referencesIn args

def Expr.referencesIn : List Expr → List Reference
  | [] => []
  | e :: es => e.references ++ Expr.referencesIn es

end

inductive Statement where
  | declare (name : String) (value : Expr) (span : Option Span)
  | assign (name : String) (value : Expr) (span : Option Span)
  | print (value : Expr) (span : Option Span)
deriving Inhabited

namespace Statement

def span : Statement → Option Span
  | declare _ _ span => span
  | assign _ _ span => span
  | print _ span => span

def value : Statement → Expr
  | declare _ value _ => value
  | assign _ value _ => value
  | print value _ => value

def declared? : Statement → Option String
  | declare name _ _ => some name
  | _ => none

end Statement

abbrev Program := List Statement

def Program.declaredNames (program : Program) : List String := program.filterMap (·.declared?)

end SeriesScript
