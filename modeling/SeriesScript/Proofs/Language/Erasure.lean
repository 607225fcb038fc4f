import SeriesScript.Language.Program

/-!
# Programs without their spans

The spans of a tree say where it was read and nothing about what it means. Erasing them leaves the
tree that the text denotes, which is the same for every layout of the text.
-/
namespace SeriesScript

mutual

def Expr.eraseSpans : Expr → Expr
  | .literal value _ => .literal value none
  | .reference name _ => .reference name none
  | .binary op left right _ => .binary op left.eraseSpans right.eraseSpans none
  | .call function args _ => .call function (Expr.eraseSpansIn args) none

def Expr.eraseSpansIn : List Expr → List Expr
  | [] => []
  | e :: es => e.eraseSpans :: Expr.eraseSpansIn es

end

def Statement.eraseSpans : Statement → Statement
  | .declare name value _ => .declare name value.eraseSpans none
  | .assign name value _ => .assign name value.eraseSpans none
  | .print value _ => .print value.eraseSpans none

def Program.eraseSpans (program : Program) : Program := program.map Statement.eraseSpans

namespace Expr

theorem eraseSpansIn_eq_map (es : List Expr) : eraseSpansIn es = es.map eraseSpans := by
  induction es with
  | nil => rfl
  | cons e es ih => rw [eraseSpansIn, ih, List.map_cons]

@[simp] theorem eraseSpansIn_append (es fs : List Expr) :
    eraseSpansIn (es ++ fs) = eraseSpansIn es ++ eraseSpansIn fs := by
  simp only [eraseSpansIn_eq_map, List.map_append]

@[simp] theorem eraseSpansIn_singleton (e : Expr) : eraseSpansIn [e] = [e.eraseSpans] := by
  simp only [eraseSpansIn]

@[simp] theorem eraseSpans_join (left right : Expr) (op : BinaryOp) :
    (left.join op right).eraseSpans = .binary op left.eraseSpans right.eraseSpans none := by
  rw [join, eraseSpans]

end Expr

namespace Program

@[simp] theorem eraseSpans_singleton (s : Statement) : eraseSpans [s] = [s.eraseSpans] := rfl

@[simp] theorem eraseSpans_append (p q : Program) :
    eraseSpans (p ++ q) = eraseSpans p ++ eraseSpans q := List.map_append

end Program

end SeriesScript
