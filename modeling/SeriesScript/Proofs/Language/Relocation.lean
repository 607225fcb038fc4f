import SeriesScript.Proofs.Language.Reading
import SeriesScript.Proofs.Language.Spans

/-!
# Reading at other places

The reader puts spans on nodes and compares no positions to decide anything. So if the tokens stand
at other places, or spans are not recorded, it takes the same steps. A relocation says where
positions and spans go; it moves modes and programs along, and reading commutes with it.
-/
namespace SeriesScript.Parser

/-- Where positions, and the spans of nodes, of one reading are found in another. Nodes get their
spans by tagging tokens and by merging the spans of operands, and both commute. -/
structure Relocation (tagged tagged' : Bool) where
  position : Position → Position
  span : Option Span → Option Span
  tag : ∀ start stop, tag tagged' (position start) (position stop) = span (tag tagged start stop)
  merge : ∀ a b, Expr.mergeSpans (span a) (span b) = span (Expr.mergeSpans a b)

namespace Relocation

variable {tagged tagged' : Bool} (R : Relocation tagged tagged')

def place (s : Span) : Span := ⟨R.position s.start, R.position s.stop⟩

def located (t : Located) : Located := ⟨t.token, R.place t.span⟩

def error (e : SyntaxError) : SyntaxError := ⟨e.fault, R.position e.position⟩

def waiting (w : Waiting) : Waiting := ⟨w.left.mapSpans R.span, w.op⟩

def chain (c : Chain) : Chain := ⟨c.sum.map R.waiting, c.product.map R.waiting⟩

def openCall (c : OpenCall) : OpenCall :=
  ⟨R.chain c.chain, c.function, R.position c.start, c.args.map (Expr.mapSpans R.span)⟩

def frame : Frame → Frame
  | .group chain => .group (R.chain chain)
  | .call c => .call (R.openCall c)

def goal (goal : Goal) : Goal := ⟨goal.purpose, R.position goal.start⟩

def mode : Mode → Mode
  | .lineStart => .lineStart
  | .varName start => .varName (R.position start)
  | .varAssign start name => .varAssign (R.position start) name
  | .named name span => .named name (R.place span)
  | .printOpen start => .printOpen (R.position start)
  | .operand goal frames chain => .operand (R.goal goal) (frames.map R.frame) (R.chain chain)
  | .callee goal frames chain name span =>
    .callee (R.goal goal) (frames.map R.frame) (R.chain chain) name (R.place span)
  | .arguments goal frames c => .arguments (R.goal goal) (frames.map R.frame) (R.openCall c)
  | .operator goal frames sum term stop =>
    .operator (R.goal goal) (frames.map R.frame) (sum.map R.waiting) (term.mapSpans R.span)
      (R.position stop)
  | .lineEnd statement => .lineEnd (statement.mapSpans R.span)

variable (goal : Goal) (frames : List Frame) (chain : Chain) (sum product : Option Waiting)
  (term e : Expr) (c : OpenCall) (args : List Expr) (stop : Position) (mode : Mode) (t : Located)

/-! ## Nodes -/

@[simp] theorem join (left right : Expr) (op : BinaryOp) :
    (left.join op right).mapSpans R.span =
      (left.mapSpans R.span).join op (right.mapSpans R.span) := by
  simp only [Expr.join, Expr.mapSpans, Expr.span_mapSpans, R.merge]

@[simp] theorem joinWaiting_map :
    joinWaiting (sum.map R.waiting) (e.mapSpans R.span) =
      (joinWaiting sum e).mapSpans R.span := by
  cases sum with
  | none => rfl
  | some w => exact (R.join w.left e w.op).symm

@[simp] theorem referenceTo_place (name : String) (span : Span) :
    referenceTo tagged' name (R.place span) = (referenceTo tagged name span).mapSpans R.span := by
  simp only [referenceTo, place, R.tag, Expr.mapSpans]

@[simp] theorem statement :
    (R.goal goal).statement tagged' (e.mapSpans R.span) (R.position stop) =
      (goal.statement tagged e stop).mapSpans R.span := by
  obtain ⟨purpose, start⟩ := goal
  cases purpose <;> simp only [Relocation.goal, Goal.statement, R.tag, Statement.mapSpans]

@[simp] theorem complete? :
    (R.goal goal).complete? tagged' (e.mapSpans R.span) (R.position stop) =
      (goal.complete? tagged e stop).map (Statement.mapSpans R.span) := by
  have value := R.statement goal e stop
  obtain ⟨purpose, start⟩ := goal
  cases purpose with
  | print => rfl
  | _ => exact congrArg some value

/-! ## Steps -/

theorem operandRead :
    Parser.operandRead (R.goal goal) (frames.map R.frame) (R.chain chain) (e.mapSpans R.span)
        (R.position stop) =
      R.mode (Parser.operandRead goal frames chain e stop) := by
  simp only [Parser.operandRead, Relocation.chain, joinWaiting_map, Relocation.mode]

theorem startOperand :
    Parser.startOperand tagged' (R.goal goal) (frames.map R.frame) (R.chain chain) (R.located t) =
      (Parser.startOperand tagged goal frames chain t).map R.mode := by
  obtain ⟨token, span⟩ := t
  have literal (value : Literal) := R.operandRead goal frames chain
    (.literal value (Parser.tag tagged span.start span.stop)) span.stop
  simp only [Expr.mapSpans, ← R.tag] at literal
  cases token with
  | integer | decimal | text | unit | reduction => exact congrArg some (literal _)
  | _ => rfl

theorem closeCall :
    Parser.closeCall tagged' (R.goal goal) (frames.map R.frame) (R.openCall c)
        (args.map (Expr.mapSpans R.span)) (R.position stop) =
      R.mode (Parser.closeCall tagged goal frames c args stop) := by
  rw [Parser.closeCall, Parser.closeCall, ← R.operandRead, Expr.mapSpans, ← R.tag,
    Expr.mapSpansIn_eq_map]
  rfl

theorem continueExpr :
    Parser.continueExpr tagged' (R.goal goal) (frames.map R.frame) (sum.map R.waiting)
        (term.mapSpans R.span) (R.located t) =
      (Parser.continueExpr tagged goal frames sum term t).map R.mode := by
  obtain ⟨token, span⟩ := t
  cases token with
  | star | slash => rfl
  | plus | minus =>
    simp [Parser.continueExpr, located, Relocation.mode, Relocation.chain, waiting]
  | comma =>
    match frames with
    | [] | .group _ :: _ => rfl
    | .call c :: rest =>
      simp [Parser.continueExpr, located, Relocation.mode, frame, openCall]
  | rightParen =>
    match frames with
    | [] =>
      have whole := R.statement goal (joinWaiting sum term) span.stop
      obtain ⟨purpose, start⟩ := goal
      cases purpose with
      | print =>
        simp only [Parser.continueExpr, located, place, joinWaiting_map, Relocation.goal] at whole ⊢
        rw [List.map_nil]
        simp only [whole, Option.map_some, Relocation.mode]
      | _ => rfl
    | .group chain :: rest =>
      have closed := R.operandRead goal rest chain (joinWaiting sum term) span.stop
      simp only [Parser.continueExpr, located, place, List.map_cons, frame, joinWaiting_map, closed,
        Option.map_some]
    | .call c :: rest =>
      have closed := R.closeCall goal rest c (c.args ++ [joinWaiting sum term]) span.stop
      simp only [List.map_append, List.map_cons, List.map_nil] at closed
      simp only [Parser.continueExpr, located, place, List.map_cons, frame, joinWaiting_map,
        Option.map_some, ← closed, openCall]
  | _ => cases frames <;> rfl

theorem take? : (R.mode mode).take? tagged' (R.located t) = (mode.take? tagged t).map R.mode := by
  cases mode with
  | lineStart | varName | varAssign | named | printOpen =>
    obtain ⟨token, span⟩ := t
    cases token <;> rfl
  | operand goal frames chain => exact R.startOperand goal frames chain t
  | callee goal frames chain name span =>
    have behind := R.continueExpr goal frames chain.sum
      (joinWaiting chain.product (referenceTo tagged name span)) t
    rw [← joinWaiting_map, ← referenceTo_place] at behind
    obtain ⟨token, span⟩ := t
    cases token with
    | leftParen => rfl
    | _ => exact behind
  | arguments goal frames c =>
    have argument := R.startOperand goal (.call c :: frames) .empty t
    have closed := R.closeCall goal frames c c.args t.span.stop
    obtain ⟨token, span⟩ := t
    cases token with
    | rightParen => exact congrArg some closed
    | _ => exact argument
  | operator goal frames sum term stop => exact R.continueExpr goal frames sum term t
  | lineEnd => rfl

theorem endLine? :
    (R.mode mode).endLine? tagged' =
      (mode.endLine? tagged).map (List.map (Statement.mapSpans R.span)) := by
  cases mode with
  | callee goal frames chain name span =>
    cases frames with
    | nil =>
      have whole := R.complete? goal
        (joinWaiting chain.sum (joinWaiting chain.product (referenceTo tagged name span))) span.stop
      rw [← joinWaiting_map, ← joinWaiting_map, ← referenceTo_place] at whole
      refine (congrArg (Option.map ([·])) whole).trans ?_
      simp only [Mode.endLine?, Option.map_map, Function.comp_def, List.map_cons, List.map_nil]
    | cons => rfl
  | operator goal frames sum term stop =>
    cases frames with
    | nil => simp [Relocation.mode, Mode.endLine?, Function.comp_def]
    | cons => rfl
  | _ => rfl

theorem refuse : (R.mode mode).refuse (R.located t) = R.error (mode.refuse t) := by
  have lacking (goal : Goal) (frames : List Frame) (found : Token) :
      unfinished (R.goal goal) (frames.map R.frame) found = unfinished goal frames found := by
    cases frames <;> rfl
  cases mode with
  | callee | operator => simp only [Relocation.mode, Mode.refuse, lacking]; rfl
  | arguments =>
    obtain ⟨token, span⟩ := t
    cases token <;> rfl
  | _ => rfl

/-! ## Readings -/

def outcome (o : Except SyntaxError Program) : Except SyntaxError Program :=
  (o.map (Program.mapSpans R.span)).mapError R.error

/-- At other places, a text that has an end is read in the same way. -/
theorem read (p : Program) (mode : Mode) {ts : List Located} (ends : ∃ t ∈ ts, t.token = .eof) :
    Parser.read tagged' ⟨p.mapSpans R.span, R.mode mode⟩ (ts.map R.located) =
      R.outcome (Parser.read tagged ⟨p, mode⟩ ts) := by
  induction ts generalizing p mode with
  | nil => simp at ends
  | cons t ts ih =>
    rw [List.map_cons]
    have same : (R.located t).token = t.token := rfl
    have took := R.take? mode t
    have done? := R.endLine? mode
    have append (done : List Statement) :
        Program.mapSpans R.span (p ++ done) = p.mapSpans R.span ++ done.map (·.mapSpans R.span) :=
      List.map_append
    -- the mode there takes and ends what the mode here does, so both readings go the same way
    rcases read_cases tagged mode t with ⟨eof, done, ended⟩ | ⟨newline, done, ended⟩ |
      ⟨next, taken⟩ | ⟨taken, ended⟩
    · rw [ended, Option.map_some] at done?
      rw [read_cons_eof (same.trans eof) done?, read_cons_eof eof ended, ← append]
      rfl
    · rw [ended, Option.map_some] at done?
      rw [read_cons_newline (same.trans newline) done?, read_cons_newline newline ended, ← append]
      exact ih (p ++ done) .lineStart (by simpa [newline] using ends)
    · have inner : t.token ≠ .eof := fun eof => by simp [Mode.take?_end (.inr eof)] at taken
      rw [taken, Option.map_some] at took
      rw [read_cons_taken took, read_cons_taken taken]
      exact ih p next (by simpa [inner] using ends)
    · rw [taken, Option.map_none] at took
      have ended' (h : t.token = .newline ∨ t.token = .eof) :
          (R.mode mode).endLine? tagged' = none := by
        rw [done?, ended h, Option.map_none]
      rw [read_cons_refused took ended', read_cons_refused taken ended, R.refuse]
      rfl

end Relocation

end SeriesScript.Parser
