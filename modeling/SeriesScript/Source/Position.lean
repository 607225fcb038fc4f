/-!
# Positions and spans of a script

Lines count from 1 and columns from 0, in characters. A span reaches from its start up to, and not
including, its end. Positions are ordered by line, then by column.
-/
namespace SeriesScript

structure Position where
  line : Nat
  column : Nat
deriving DecidableEq, Inhabited

namespace Position

def start : Position := ⟨1, 0⟩

def advance (p : Position) (c : Char) : Position :=
  if c = '\n' then ⟨p.line + 1, 0⟩ else ⟨p.line, p.column + 1⟩

def after (p : Position) (text : List Char) : Position := text.foldl advance p

@[simp] theorem after_nil (p : Position) : p.after [] = p := rfl

@[simp] theorem after_cons (p : Position) (c : Char) (text : List Char) :
    p.after (c :: text) = (p.advance c).after text := rfl

@[simp] theorem after_append (p : Position) (a b : List Char) :
    p.after (a ++ b) = (p.after a).after b := List.foldl_append

def atMost (p q : Position) : Bool :=
  p.line < q.line || (p.line == q.line && p.column ≤ q.column)

def earlier (p q : Position) : Position := if p.atMost q then p else q

def later (p q : Position) : Position := if p.atMost q then q else p

def render (p : Position) : String := toString p.line ++ ":" ++ toString p.column

end Position

structure Span where
  start : Position
  stop : Position
deriving DecidableEq, Inhabited

namespace Span

/-- The span of a node that was read without recording positions. -/
def unknown : Span := ⟨⟨0, 0⟩, ⟨0, 0⟩⟩

/-- The least span that holds both. -/
def merge (a b : Span) : Span := ⟨a.start.earlier b.start, a.stop.later b.stop⟩

def render (s : Span) : String :=
  "(" ++ toString s.start.line ++ "," ++ toString s.start.column ++ ")-(" ++
    toString s.stop.line ++ "," ++ toString s.stop.column ++ ")"

end Span

end SeriesScript
