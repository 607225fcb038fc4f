import SeriesScript.Language.Parser

/-!
# Expressions and their places

Which tokens of a text write which expression, now with the spans that are recorded. An operation
has the span over its operands, a call reaches from its name to its last token, and brackets around
an expression leave no trace in it. The rank of operators is not looked at here.
-/
namespace SeriesScript

def BinaryOp.token : BinaryOp → Token
  | add => .plus
  | subtract => .minus
  | multiply => .star
  | divide => .slash

namespace Derivation

structure Part where
  tokens : List Located
  tree : Expr

/-- The tokens of some parts, with a comma behind each of them. -/
inductive Followed : List Part → List Located → Prop
  | none : Followed [] []
  | part {parts : List Part} {ts : List Located} {comma : Located} (init : Followed parts ts)
      (last : Part) (sign : comma.token = .comma) :
      Followed (parts ++ [last]) (ts ++ last.tokens ++ [comma])

/-- The tokens of some parts with commas between them, and one more comma at will behind the last
part. -/
inductive Listed : List Part → List Located → Prop
  | followed {parts : List Part} {ts : List Located} (h : Followed parts ts) : Listed parts ts
  | last {parts : List Part} {ts : List Located} (init : Followed parts ts) (last : Part) :
      Listed (parts ++ [last]) (ts ++ last.tokens)

inductive Derives : List Located → Expr → Prop
  | literal {t : Located} {value : Literal} (h : Parser.literalOf? t.token = some value) :
      Derives [t] (.literal value (some t.span))
  | reference {t : Located} {name : String} (h : t.token = .identifier name) :
      Derives [t] (.reference name (some t.span))
  | group {opens closes : Located} {ts : List Located} {e : Expr} (left : opens.token = .leftParen)
      (inner : Derives ts e) (right : closes.token = .rightParen) :
      Derives (opens :: (ts ++ [closes])) e
  | operation {ts us : List Located} {sign : Located} {e f : Expr} {op : BinaryOp}
      (left : Derives ts e) (operator : sign.token = op.token) (right : Derives us f) :
      Derives (ts ++ sign :: us) (e.join op f)
  | call {name opens closes : Located} {function : String} {parts : List Part} {ts : List Located}
      (callee : name.token = .identifier function) (left : opens.token = .leftParen)
      (args : Listed parts ts) (each : ∀ part ∈ parts, Derives part.tokens part.tree)
      (right : closes.token = .rightParen) :
      Derives (name :: opens :: (ts ++ [closes]))
        (.call function (parts.map (·.tree)) (some ⟨name.span.start, closes.span.stop⟩))

def EndsAt (ts : List Located) (stop : Position) : Prop :=
  ∃ init last, ts = init ++ [last] ∧ last.span.stop = stop

inductive DerivesLine : List Located → Statement → Prop
  | declare {word target sign : Located} {ts : List Located} {name : String} {e : Expr}
      {stop : Position} (keyword : word.token = .var) (named : target.token = .identifier name)
      (assign : sign.token = .assign) (value : Derives ts e) (ends : EndsAt ts stop) :
      DerivesLine (word :: target :: sign :: ts) (.declare name e (some ⟨word.span.start, stop⟩))
  | assign {target sign : Located} {ts : List Located} {name : String} {e : Expr} {stop : Position}
      (named : target.token = .identifier name) (assign : sign.token = .assign)
      (value : Derives ts e) (ends : EndsAt ts stop) :
      DerivesLine (target :: sign :: ts) (.assign name e (some ⟨target.span.start, stop⟩))
  | print {word opens closes : Located} {ts : List Located} {e : Expr}
      (keyword : word.token = .print) (left : opens.token = .leftParen) (value : Derives ts e)
      (right : closes.token = .rightParen) :
      DerivesLine (word :: opens :: (ts ++ [closes]))
        (.print e (some ⟨word.span.start, closes.span.stop⟩))

/-- The tokens of some lines, each of them empty or with one statement. -/
inductive DerivesLines : List Located → Program → Prop
  | none : DerivesLines [] []
  | last {ts : List Located} {s : Statement} (line : DerivesLine ts s) : DerivesLines ts [s]
  | blank {newline : Located} {ts : List Located} {p : Program} (ends : newline.token = .newline)
      (rest : DerivesLines ts p) : DerivesLines (newline :: ts) p
  | line {newline : Located} {ts us : List Located} {s : Statement} {p : Program}
      (line : DerivesLine ts s) (ends : newline.token = .newline) (rest : DerivesLines us p) :
      DerivesLines (ts ++ newline :: us) (s :: p)

/-! ## The tokens of the arguments -/

variable {parts : List Part} {ts : List Located} {e : Expr}

theorem Followed.isInfix (h : Followed parts ts) : ∀ part ∈ parts, part.tokens <:+: ts := by
  induction h with
  | none => exact List.forall_mem_nil _
  | part init last sign ih =>
    refine List.forall_mem_append.mpr ⟨fun part mem => ?_, ?_⟩
    · rw [List.append_assoc]
      exact (ih part mem).trans (List.prefix_append _ _).isInfix
    · exact List.forall_mem_singleton.mpr (List.infix_append _ _ _)

theorem Followed.sublist (h : Followed parts ts) : (parts.flatMap (·.tokens)).Sublist ts := by
  induction h with
  | none => exact .slnil
  | part init last sign ih =>
    rw [List.flatMap_append, List.flatMap_singleton]
    exact (ih.append (.refl _)).trans (List.sublist_append_left _ _)

theorem Listed.isInfix (h : Listed parts ts) : ∀ part ∈ parts, part.tokens <:+: ts := by
  cases h with
  | followed h => exact h.isInfix
  | last init last =>
    refine List.forall_mem_append.mpr ⟨fun part mem => ?_, ?_⟩
    · exact (init.isInfix part mem).trans (List.prefix_append _ _).isInfix
    · exact List.forall_mem_singleton.mpr (List.suffix_append _ _).isInfix

theorem Listed.sublist (h : Listed parts ts) : (parts.flatMap (·.tokens)).Sublist ts := by
  cases h with
  | followed h => exact h.sublist
  | last init last =>
    rw [List.flatMap_append, List.flatMap_singleton]
    exact init.sublist.append (.refl _)

/-! ## Brackets -/

/-- Every bracket that is opened in these tokens is closed in them, and no other is. -/
inductive Balanced : List Located → Prop
  | none : Balanced []
  | other {t : Located} (h : t.token ≠ .leftParen ∧ t.token ≠ .rightParen) : Balanced [t]
  | append {ts us : List Located} (left : Balanced ts) (right : Balanced us) : Balanced (ts ++ us)
  | group {opens closes : Located} {ts : List Located} (left : opens.token = .leftParen)
      (inner : Balanced ts) (right : closes.token = .rightParen) :
      Balanced (opens :: (ts ++ [closes]))

theorem Balanced.cons {t : Located} (h : t.token ≠ .leftParen ∧ t.token ≠ .rightParen)
    (rest : Balanced ts) : Balanced (t :: ts) := .append (.other h) rest

theorem balanced_of_comma {comma : Located} (h : comma.token = .comma) : Balanced [comma] :=
  .other (by simp [h])

theorem Followed.balanced (h : Followed parts ts) (each : ∀ part ∈ parts, Balanced part.tokens) :
    Balanced ts := by
  induction h with
  | none => exact .none
  | part init last sign ih =>
    obtain ⟨others, this⟩ := List.forall_mem_append.mp each
    have comma := balanced_of_comma sign
    exact .append (.append (ih others) (this last (List.mem_singleton_self _))) comma

theorem Listed.balanced (h : Listed parts ts) (each : ∀ part ∈ parts, Balanced part.tokens) :
    Balanced ts := by
  cases h with
  | followed h => exact h.balanced each
  | last init last =>
    obtain ⟨others, this⟩ := List.forall_mem_append.mp each
    exact .append (init.balanced others) (this last (List.mem_singleton_self _))

theorem balanced_of_literal {t : Located} {value : Literal}
    (h : Parser.literalOf? t.token = some value) : Balanced [t] := by
  refine .other ⟨fun token => ?_, fun token => ?_⟩ <;> simp [token, Parser.literalOf?] at h

theorem balanced_of_operator {sign : Located} {op : BinaryOp} (h : sign.token = op.token) :
    Balanced [sign] := by
  refine .other ?_
  cases op <;> simp [h, BinaryOp.token]

theorem Derives.balanced (h : Derives ts e) : Balanced ts := by
  induction h with
  | literal literal => exact balanced_of_literal literal
  | reference named => exact .other (by simp [named])
  | group left inner right ih => exact .group left ih right
  | operation left operator right ihLeft ihRight =>
    exact .append ihLeft (.append (balanced_of_operator operator) ihRight)
  | call callee left args each right ih =>
    exact .cons (by simp [callee]) (.group left (args.balanced ih) right)

end Derivation

end SeriesScript
