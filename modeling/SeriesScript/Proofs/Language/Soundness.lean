import SeriesScript.Proofs.Language.Erasure
import SeriesScript.Proofs.Language.Grammar
import SeriesScript.Proofs.Language.Reading

/-!
# What was read follows the grammar

A mode holds trees and waiting operators in place of the tokens of the line so far. The predicates
below say which tokens it stands for. Every step of the reader keeps them, so a statement that is
complete was derived from exactly the tokens of its line.
-/
namespace SeriesScript.Parser

open Grammar

/-- The tokens of a sum up to an operator, which waits for a product. -/
inductive SumWaits : Option Waiting → List Token → Prop
  | none : SumWaits none []
  | add {left : Expr} {ts : List Token} (h : Sum ts left.eraseSpans) :
      SumWaits (some ⟨left, .add⟩) (ts ++ [.plus])
  | subtract {left : Expr} {ts : List Token} (h : Sum ts left.eraseSpans) :
      SumWaits (some ⟨left, .subtract⟩) (ts ++ [.minus])

inductive ProductWaits : Option Waiting → List Token → Prop
  | none : ProductWaits none []
  | multiply {left : Expr} {ts : List Token} (h : Product ts left.eraseSpans) :
      ProductWaits (some ⟨left, .multiply⟩) (ts ++ [.star])
  | divide {left : Expr} {ts : List Token} (h : Product ts left.eraseSpans) :
      ProductWaits (some ⟨left, .divide⟩) (ts ++ [.slash])

inductive Chain.Reads : Chain → List Token → Prop
  | intro {sum product : Option Waiting} {ts us : List Token} (outer : SumWaits sum ts)
      (inner : ProductWaits product us) : Chain.Reads ⟨sum, product⟩ (ts ++ us)

inductive ArgumentsWait : List Expr → List Token → Prop
  | none : ArgumentsWait [] []
  | comma {args : List Expr} {ts : List Token} (h : Listed ts (Expr.eraseSpansIn args)) :
      ArgumentsWait args (ts ++ [.comma])

def Goal.opening (goal : Goal) : List Token :=
  match goal.purpose with
  | .declare name => [.var, .identifier name, .assign]
  | .assign name => [.identifier name, .assign]
  | .print => [.print, .leftParen]

/-- The tokens of a line up to its innermost open bracket, and up to the last comma there. -/
inductive Within (goal : Goal) : List Frame → List Token → Prop
  | line : Within goal [] goal.opening
  | group {frames : List Frame} {chain : Chain} {ts us : List Token}
      (outer : Within goal frames ts) (before : chain.Reads us) :
      Within goal (.group chain :: frames) (ts ++ us ++ [.leftParen])
  | call {frames : List Frame} {c : OpenCall} {ts us vs : List Token}
      (outer : Within goal frames ts) (before : c.chain.Reads us)
      (args : ArgumentsWait c.args vs) :
      Within goal (.call c :: frames)
        (ts ++ us ++ .identifier c.function :: .leftParen :: vs)

/-- The tokens of the line that a mode stands for. -/
inductive Mode.Reads : Mode → List Token → Prop
  | lineStart : Reads .lineStart []
  | varName (start : Position) : Reads (.varName start) [.var]
  | varAssign (start : Position) (name : String) :
      Reads (.varAssign start name) [.var, .identifier name]
  | named (name : String) (span : Span) : Reads (.named name span) [.identifier name]
  | printOpen (start : Position) : Reads (.printOpen start) [.print]
  | operand {goal : Goal} {frames : List Frame} {chain : Chain} {ts us : List Token}
      (within : Within goal frames ts) (before : chain.Reads us) :
      Reads (.operand goal frames chain) (ts ++ us)
  | callee {goal : Goal} {frames : List Frame} {chain : Chain} {ts us : List Token}
      (name : String) (span : Span) (within : Within goal frames ts) (before : chain.Reads us) :
      Reads (.callee goal frames chain name span) (ts ++ us ++ [.identifier name])
  | arguments {goal : Goal} {frames : List Frame} {c : OpenCall} {ts : List Token}
      (within : Within goal (.call c :: frames) ts) : Reads (.arguments goal frames c) ts
  | operator {goal : Goal} {frames : List Frame} {sum : Option Waiting} {term : Expr}
      {ts us vs : List Token} (stop : Position) (within : Within goal frames ts)
      (outer : SumWaits sum us) (inner : Product vs term.eraseSpans) :
      Reads (.operator goal frames sum term stop) (ts ++ us ++ vs)
  | lineEnd {s : Statement} {ts : List Token} (line : Line ts s.eraseSpans) :
      Reads (.lineEnd s) ts

variable {tagged : Bool} {goal : Goal} {frames : List Frame} {chain : Chain} {c : OpenCall}
  {sum product : Option Waiting} {term e : Expr} {args : List Expr} {stop : Position}
  {mode next : Mode} {t : Located} {ts us vs : List Token}

theorem Chain.reads_empty : Chain.empty.Reads [] := .intro .none .none

theorem SumWaits.join (h : SumWaits sum ts) (right : Product us e.eraseSpans) :
    Sum (ts ++ us) (joinWaiting sum e).eraseSpans := by
  cases h with
  | none => exact .product right
  | add left =>
    rw [joinWaiting, Expr.eraseSpans_join, List.append_assoc]
    exact .add left right
  | subtract left =>
    rw [joinWaiting, Expr.eraseSpans_join, List.append_assoc]
    exact .subtract left right

theorem ProductWaits.join (h : ProductWaits product ts) (right : Operand us e.eraseSpans) :
    Product (ts ++ us) (joinWaiting product e).eraseSpans := by
  cases h with
  | none => exact .operand right
  | multiply left =>
    rw [joinWaiting, Expr.eraseSpans_join, List.append_assoc]
    exact .multiply left right
  | divide left =>
    rw [joinWaiting, Expr.eraseSpans_join, List.append_assoc]
    exact .divide left right

theorem ArgumentsWait.close (h : ArgumentsWait args ts) :
    Arguments ts (Expr.eraseSpansIn args) := by
  cases h with
  | none => exact .none
  | comma listed => exact .trailingComma listed

theorem ArgumentsWait.listed (h : ArgumentsWait args ts)
    (last : Sum us e.eraseSpans) : Listed (ts ++ us) (Expr.eraseSpansIn (args ++ [e])) := by
  rw [Expr.eraseSpansIn_append, Expr.eraseSpansIn_singleton]
  cases h with
  | none => exact .one last
  | comma init =>
    rw [List.append_assoc]
    exact .more init last

theorem operand_of_literal {token : Token} {value : Literal} (h : literalOf? token = some value) :
    Operand [token] (.literal value none) := by
  cases token with
  | integer | decimal | text | unit | reduction =>
    cases h
    constructor
  | _ => simp [literalOf?] at h

theorem operand_of_reference (tagged : Bool) (name : String) (span : Span) :
    Operand [.identifier name] (referenceTo tagged name span).eraseSpans := .reference name

/-- A complete operand completes the product that waits for it. -/
theorem reads_operandRead (within : Within goal frames ts) (before : chain.Reads us)
    (operand : Operand vs e.eraseSpans) :
    (operandRead goal frames chain e stop).Reads (ts ++ us ++ vs) := by
  cases before with
  | intro outer inner =>
    have read := Mode.Reads.operator stop within outer (inner.join operand)
    simpa [operandRead] using read

theorem reads_startOperand (within : Within goal frames ts) (before : chain.Reads us)
    (step : startOperand tagged goal frames chain t = some next) :
    next.Reads (ts ++ us ++ [t.token]) := by
  rw [startOperand] at step
  split at step
  case h_1 name token =>
    cases step
    rw [token]
    exact .callee name t.span within before
  case h_2 token =>
    cases step
    rw [token]
    simpa using Mode.Reads.operand (within.group before) Chain.reads_empty
  case h_3 =>
    obtain ⟨value, literal, rfl⟩ := Option.map_eq_some_iff.mp step
    exact reads_operandRead within before (operand_of_literal literal)

theorem reads_closeCall (within : Within goal frames ts) (before : c.chain.Reads us)
    (h : Arguments vs (Expr.eraseSpansIn args)) :
    (closeCall tagged goal frames c args stop).Reads
      (ts ++ us ++ .identifier c.function :: .leftParen :: (vs ++ [.rightParen])) :=
  reads_operandRead within before (.call c.function h)

theorem line_of_complete {s : Statement} (h : goal.complete? tagged e stop = some s)
    (value : Sum ts e.eraseSpans) : Line (goal.opening ++ ts) s.eraseSpans := by
  obtain ⟨purpose, start⟩ := goal
  cases purpose with
  | declare name =>
    cases h
    exact .declare name value
  | assign name =>
    cases h
    exact .assign name value
  | print => simp [Goal.complete?] at h

theorem reads_continueExpr (within : Within goal frames ts) (outer : SumWaits sum us)
    (inner : Product vs term.eraseSpans)
    (step : continueExpr tagged goal frames sum term t = some next) :
    next.Reads (ts ++ us ++ vs ++ [t.token]) := by
  have whole := outer.join inner
  unfold continueExpr at step
  split at step
  case h_1 token =>
    cases step
    simpa [token] using Mode.Reads.operand within (.intro outer (.multiply inner))
  case h_2 token =>
    cases step
    simpa [token] using Mode.Reads.operand within (.intro outer (.divide inner))
  case h_3 token =>
    cases step
    simpa [token] using Mode.Reads.operand within (.intro (.add whole) .none)
  case h_4 token =>
    cases step
    simpa [token] using Mode.Reads.operand within (.intro (.subtract whole) .none)
  case h_5 c rest token =>
    cases step
    cases within with
    | call out before args =>
      have listed := args.listed whole
      have within := Within.call
        (c := ⟨c.chain, c.function, c.start, c.args ++ [joinWaiting sum term]⟩) out before
        (.comma listed)
      simpa [token] using Mode.Reads.arguments within
  case h_6 chain rest token =>
    cases step
    cases within with
    | group out before => simpa [token] using reads_operandRead out before (.group whole)
  case h_7 c rest token =>
    cases step
    cases within with
    | call out before args =>
      have closed := Arguments.listed (args.listed whole)
      simpa [token] using reads_closeCall out before closed
  case h_8 token =>
    cases within
    split at step
    case h_1 purpose =>
      cases step
      have line := Line.print whole
      refine .lineEnd ?_
      simpa [token, Goal.opening, Goal.statement, purpose, Statement.eraseSpans] using line
    case h_2 => cases step
  case h_9 => cases step

/-- A name is the function of a call, or else an operand. -/
theorem reads_callee {name : String} {span : Span} (within : Within goal frames ts)
    (before : chain.Reads us)
    (step : (Mode.callee goal frames chain name span).take? tagged t = some next) :
    next.Reads (ts ++ us ++ [.identifier name] ++ [t.token]) := by
  simp only [Mode.take?] at step
  split at step
  case h_1 token =>
    cases step
    have within := Within.call (c := ⟨chain, name, span.start, []⟩) within before .none
    simpa [token] using Mode.Reads.arguments within
  case h_2 =>
    cases before with
    | intro outer inner =>
      have term := inner.join (operand_of_reference tagged name span)
      simpa using reads_continueExpr within outer term step

theorem reads_arguments (within : Within goal (.call c :: frames) ts)
    (step : (Mode.arguments goal frames c).take? tagged t = some next) :
    next.Reads (ts ++ [t.token]) := by
  simp only [Mode.take?] at step
  split at step
  case h_1 token =>
    cases step
    cases within with
    | call out before args => simpa [token] using reads_closeCall out before args.close
  case h_2 => simpa using reads_startOperand within Chain.reads_empty step

theorem reads_opening (goal : Goal) : (Mode.operand goal [] .empty).Reads goal.opening := by
  have opening : Within goal [] goal.opening := .line
  simpa using Mode.Reads.operand opening Chain.reads_empty

/-- The tokens that a mode stands for grow by the token that is taken. -/
theorem Mode.Reads.take (h : mode.Reads ts) (step : mode.take? tagged t = some next) :
    next.Reads (ts ++ [t.token]) := by
  cases h with
  | lineStart =>
    simp only [Mode.take?] at step
    split at step
    case h_1 token =>
      cases step
      simpa [token] using Mode.Reads.varName t.span.start
    case h_2 token =>
      cases step
      simpa [token] using Mode.Reads.printOpen t.span.start
    case h_3 name token =>
      cases step
      simpa [token] using Mode.Reads.named name t.span
    case h_4 => cases step
  | varName start =>
    simp only [Mode.take?] at step
    split at step
    case h_1 name token =>
      cases step
      simpa [token] using Mode.Reads.varAssign start name
    case h_2 => cases step
  | varAssign start name =>
    simp only [Mode.take?] at step
    split at step
    case h_1 token =>
      cases step
      rw [token]
      exact reads_opening ⟨.declare name, start⟩
    case h_2 => cases step
  | named name span =>
    simp only [Mode.take?] at step
    split at step
    case h_1 token =>
      cases step
      rw [token]
      exact reads_opening ⟨.assign name, span.start⟩
    case h_2 => cases step
  | printOpen start =>
    simp only [Mode.take?] at step
    split at step
    case h_1 token =>
      cases step
      rw [token]
      exact reads_opening ⟨.print, start⟩
    case h_2 => cases step
  | operand within before => exact reads_startOperand within before step
  | callee name span within before => exact reads_callee within before step
  | arguments within => exact reads_arguments within step
  | operator stop within outer inner => exact reads_continueExpr within outer inner step
  | lineEnd => cases step

/-- At the end of a line, nothing was read or one whole statement. -/
theorem Mode.Reads.endLine {done : List Statement} (h : mode.Reads ts)
    (ends : mode.endLine? tagged = some done) :
    (done = [] ∧ ts = []) ∨ ∃ s, done = [s] ∧ Line ts s.eraseSpans := by
  cases h with
  | lineStart =>
    cases ends
    exact .inl ⟨rfl, rfl⟩
  | lineEnd line =>
    cases ends
    exact .inr ⟨_, rfl, line⟩
  | @callee goal frames chain _ _ name span within before =>
    cases frames with
    | cons => cases ends
    | nil =>
      obtain ⟨s, complete, rfl⟩ := Option.map_eq_some_iff.mp ends
      cases within
      cases before with
      | intro outer inner =>
        have value := outer.join (inner.join (operand_of_reference tagged name span))
        exact .inr ⟨s, rfl, by simpa using line_of_complete complete value⟩
  | @operator goal frames sum term _ _ _ stop within outer inner =>
    cases frames with
    | cons => cases ends
    | nil =>
      obtain ⟨s, complete, rfl⟩ := Option.map_eq_some_iff.mp ends
      cases within
      exact .inr ⟨s, rfl, by simpa using line_of_complete complete (outer.join inner)⟩
  | _ => cases ends

inductive LinesRead : Program → List Token → Prop
  | blank (n : Nat) : LinesRead [] (newlines n)
  | lines (m n : Nat) {p : Program} {ts : List Token} (h : Lines ts p.eraseSpans) :
      LinesRead p (newlines m ++ ts ++ newlines (n + 1))

namespace LinesRead

variable {p : Program}

theorem newline (h : LinesRead p ts) : LinesRead p (ts ++ [.newline]) := by
  cases h with
  | blank n => simpa [newlines, List.replicate_succ'] using LinesRead.blank (n + 1)
  | lines m n h => simpa [newlines, List.replicate_succ'] using LinesRead.lines m (n + 1) h

theorem script (h : LinesRead p ts) : Script (ts ++ [.eof]) p.eraseSpans := by
  cases h with
  | blank n => exact .empty n
  | lines m n h => exact .lines m (n + 1) h

theorem line {s : Statement} (h : LinesRead p ts) (last : Line us s.eraseSpans) :
    ∃ m vs, ts ++ us = newlines m ++ vs ∧ Lines vs (Program.eraseSpans (p ++ [s])) := by
  rw [Program.eraseSpans_append, Program.eraseSpans_singleton]
  cases h with
  | blank n => exact ⟨n, us, rfl, .one last⟩
  | lines m n h => exact ⟨m, _, by simp, .more n h last⟩

theorem endLine {done : List Statement} (h : LinesRead p ts) (current : mode.Reads us)
    (ends : mode.endLine? tagged = some done) : LinesRead (p ++ done) (ts ++ us ++ [.newline]) := by
  rcases current.endLine ends with ⟨rfl, rfl⟩ | ⟨s, rfl, line⟩
  · simpa using h.newline
  · obtain ⟨m, vs, tokens, whole⟩ := h.line line
    rw [tokens]
    exact .lines m 0 whole

end LinesRead

/-- A text that is read from any place on is a script together with what stands before. -/
theorem script_of_read {body : List Located} {last : Located} {p q : Program}
    (inside : ∀ t ∈ body, t.token ≠ .eof) (eof : last.token = .eof) (lines : LinesRead p ts)
    (current : mode.Reads us) (h : read tagged ⟨p, mode⟩ (body ++ [last]) = .ok q) :
    Script (ts ++ us ++ body.map (·.token) ++ [.eof]) q.eraseSpans := by
  induction body generalizing mode p ts us with
  | nil =>
    rcases read_cons_ok h with ⟨-, done, ends, rfl⟩ | ⟨newline, -⟩ | ⟨next, taken, -⟩
    · rcases current.endLine ends with ⟨rfl, rfl⟩ | ⟨s, rfl, line⟩
      · simpa using lines.script
      · obtain ⟨m, vs, tokens, whole⟩ := lines.line line
        simpa [tokens, newlines] using Script.lines m 0 whole
    · simp [eof] at newline
    · simp [Mode.take?_end (.inr eof)] at taken
  | cons t body ih =>
    obtain ⟨first, others⟩ := List.forall_mem_cons.mp inside
    rcases read_cons_ok h with ⟨eof, -⟩ | ⟨newline, done, ends, later⟩ | ⟨next, taken, later⟩
    · exact absurd eof first
    · simpa [newline] using ih others (lines.endLine current ends) .lineStart later
    · simpa using ih others lines (current.take taken) later

end SeriesScript.Parser
