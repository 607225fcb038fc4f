import SeriesScript.Language.Lexer
import SeriesScript.Language.Program

/-!
# From tokens to programs

The reader takes one token at a time. Its mode says what it is in the midst of, and holds all that
was read of the statement so far: the open brackets, innermost first, and for each of them the sum
and the product that wait for their right operand. Operators of one rank group to the left, and
products bind tighter than sums.

A token is either taken, which gives the next mode, or refused, which ends the reading; the fault
depends on the mode and the token alone. The end of a line and the end of the text are taken
exactly where a statement is complete.
-/
namespace SeriesScript.Parser

structure Waiting where
  left : Expr
  op : BinaryOp

def joinWaiting : Option Waiting → Expr → Expr
  | none, e => e
  | some w, e => w.left.join w.op e

/-- What stands to the left of an operand at the same depth of brackets. -/
structure Chain where
  sum : Option Waiting
  product : Option Waiting

def Chain.empty : Chain := ⟨none, none⟩

structure OpenCall where
  chain : Chain
  function : String
  start : Position
  args : List Expr

/-- An open bracket: of a group, with what stands before the group, or of a call. -/
inductive Frame where
  | group (chain : Chain)
  | call (c : OpenCall)

/-- What is done with the value of the expression being read. -/
inductive Purpose where
  | declare (name : String)
  | assign (name : String)
  | print

structure Goal where
  purpose : Purpose
  start : Position

inductive Mode where
  /-- Before a statement. -/
  | lineStart
  /-- Behind the word `var`. -/
  | varName (start : Position)
  /-- Behind the name of a declaration. -/
  | varAssign (start : Position) (name : String)
  /-- Behind a name that starts a line. -/
  | named (name : String) (span : Span)
  /-- Behind the word `print`. -/
  | printOpen (start : Position)
  /-- Where an operand has to follow. -/
  | operand (goal : Goal) (frames : List Frame) (chain : Chain)
  /-- Behind a name that is an operand or the function of a call. -/
  | callee (goal : Goal) (frames : List Frame) (chain : Chain) (name : String) (span : Span)
  /-- Where an argument or the end of a call has to follow. -/
  | arguments (goal : Goal) (frames : List Frame) (c : OpenCall)
  /-- Behind a complete operand: the product so far, and the end of its last token. -/
  | operator (goal : Goal) (frames : List Frame) (sum : Option Waiting) (term : Expr)
      (stop : Position)
  /-- Behind the closing bracket of a print statement. -/
  | lineEnd (statement : Statement)

/-- The statements read so far, and the mode. -/
structure State where
  program : Program
  mode : Mode

def State.initial : State := ⟨[], .lineStart⟩

variable (tagged : Bool)

/-- The span of a node, if positions are recorded. -/
def tag (start stop : Position) : Option Span := if tagged then some ⟨start, stop⟩ else none

def Goal.statement (goal : Goal) (value : Expr) (stop : Position) : Statement :=
  match goal.purpose with
  | .declare name => .declare name value (tag tagged goal.start stop)
  | .assign name => .assign name value (tag tagged goal.start stop)
  | .print => .print value (tag tagged goal.start stop)

def literalOf? : Token → Option Literal
  | .integer n => some (.integer n)
  | .decimal x => some (.decimal x)
  | .text s => some (.text s)
  | .unit u => some (.unit u)
  | .reduction r => some (.reduction r)
  | _ => none

def operandRead (goal : Goal) (frames : List Frame) (chain : Chain) (e : Expr) (stop : Position) :
    Mode :=
  .operator goal frames chain.sum (joinWaiting chain.product e) stop

def startOperand (goal : Goal) (frames : List Frame) (chain : Chain) (t : Located) : Option Mode :=
  match t.token with
  | .identifier name => some (.callee goal frames chain name t.span)
  | .leftParen => some (.operand goal (.group chain :: frames) .empty)
  | token =>
    (literalOf? token).map fun value =>
      let literal := Expr.literal value (tag tagged t.span.start t.span.stop)
      operandRead goal frames chain literal t.span.stop

def closeCall (goal : Goal) (frames : List Frame) (c : OpenCall) (args : List Expr)
    (stop : Position) : Mode :=
  operandRead goal frames c.chain (.call c.function args (tag tagged c.start stop)) stop

/-- Takes a token behind a complete operand. -/
def continueExpr (goal : Goal) (frames : List Frame) (sum : Option Waiting) (term : Expr)
    (t : Located) : Option Mode :=
  match t.token, frames with
  | .star, _ => some (.operand goal frames ⟨sum, some ⟨term, .multiply⟩⟩)
  | .slash, _ => some (.operand goal frames ⟨sum, some ⟨term, .divide⟩⟩)
  | .plus, _ => some (.operand goal frames ⟨some ⟨joinWaiting sum term, .add⟩, none⟩)
  | .minus, _ => some (.operand goal frames ⟨some ⟨joinWaiting sum term, .subtract⟩, none⟩)
  | .comma, .call c :: rest =>
    some (.arguments goal rest { c with args := c.args ++ [joinWaiting sum term] })
  | .rightParen, .group chain :: rest =>
    some (operandRead goal rest chain (joinWaiting sum term) t.span.stop)
  | .rightParen, .call c :: rest =>
    some (closeCall tagged goal rest c (c.args ++ [joinWaiting sum term]) t.span.stop)
  | .rightParen, [] =>
    match goal.purpose with
    | .print => some (.lineEnd (goal.statement tagged (joinWaiting sum term) t.span.stop))
    | _ => none
  | _, _ => none

/-- The operand that a name alone is. -/
def referenceTo (name : String) (span : Span) : Expr :=
  .reference name (tag tagged span.start span.stop)

def Mode.take? : Mode → Located → Option Mode
  | .lineStart, t =>
    match t.token with
    | .var => some (.varName t.span.start)
    | .print => some (.printOpen t.span.start)
    | .identifier name => some (.named name t.span)
    | _ => none
  | .varName start, t =>
    match t.token with
    | .identifier name => some (.varAssign start name)
    | _ => none
  | .varAssign start name, t =>
    match t.token with
    | .assign => some (.operand ⟨.declare name, start⟩ [] .empty)
    | _ => none
  | .named name span, t =>
    match t.token with
    | .assign => some (.operand ⟨.assign name, span.start⟩ [] .empty)
    | _ => none
  | .printOpen start, t =>
    match t.token with
    | .leftParen => some (.operand ⟨.print, start⟩ [] .empty)
    | _ => none
  | .operand goal frames chain, t => startOperand tagged goal frames chain t
  | .callee goal frames chain name span, t =>
    match t.token with
    | .leftParen => some (.arguments goal frames ⟨chain, name, span.start, []⟩)
    | _ =>
      continueExpr tagged goal frames chain.sum
        (joinWaiting chain.product (referenceTo tagged name span)) t
  | .arguments goal frames c, t =>
    match t.token with
    | .rightParen => some (closeCall tagged goal frames c c.args t.span.stop)
    | _ => startOperand tagged goal (.call c :: frames) .empty t
  | .operator goal frames sum term _, t => continueExpr tagged goal frames sum term t
  | .lineEnd _, _ => none

/-- The statement that a complete expression ends, unless a print statement still has to be
closed. -/
def Goal.complete? (goal : Goal) (value : Expr) (stop : Position) : Option Statement :=
  match goal.purpose with
  | .print => none
  | _ => some (goal.statement tagged value stop)

/-- The statements at the end of a line, if that can be an end: the current one is complete, or none
has begun. -/
def Mode.endLine? : Mode → Option (List Statement)
  | .lineStart => some []
  | .callee goal [] chain name span =>
    (goal.complete? tagged
      (joinWaiting chain.sum (joinWaiting chain.product (referenceTo tagged name span)))
      span.stop).map ([·])
  | .operator goal [] sum term stop =>
    (goal.complete? tagged (joinWaiting sum term) stop).map ([·])
  | .lineEnd statement => some [statement]
  | _ => none

/-- What an expression lacks at a token that cannot continue it. -/
def unfinished (goal : Goal) (frames : List Frame) (found : Token) : SyntaxFault :=
  match frames, goal.purpose with
  | _ :: _, _ => .tokenExpected .rightParen found
  | [], .print => .tokenExpected .rightParen found
  | [], _ => .trailingToken found

/-- Why a token is refused. A name that starts a line and is not assigned to is itself at fault; in
all other modes the refused token is. -/
def Mode.refuse (mode : Mode) (t : Located) : SyntaxError :=
  match mode with
  | .lineStart => ⟨.notAStatement t.token, t.span.start⟩
  | .varName _ => ⟨.nameExpected t.token, t.span.start⟩
  | .varAssign _ _ => ⟨.tokenExpected .assign t.token, t.span.start⟩
  | .named name span => ⟨.notAStatement (.identifier name), span.start⟩
  | .printOpen _ => ⟨.tokenExpected .leftParen t.token, t.span.start⟩
  | .operand _ _ _ => ⟨.operandExpected t.token, t.span.start⟩
  | .callee goal frames _ _ _ => ⟨unfinished goal frames t.token, t.span.start⟩
  | .arguments _ _ _ =>
    match t.token with
    | .eof => ⟨.tokenExpected .rightParen t.token, t.span.start⟩
    | _ => ⟨.operandExpected t.token, t.span.start⟩
  | .operator goal frames _ _ _ => ⟨unfinished goal frames t.token, t.span.start⟩
  | .lineEnd _ => ⟨.trailingToken t.token, t.span.start⟩

def State.take? (s : State) (t : Located) : Option State :=
  match t.token with
  | .newline => (s.mode.endLine? tagged).map fun done => ⟨s.program ++ done, .lineStart⟩
  | _ => (s.mode.take? tagged t).map fun mode => ⟨s.program, mode⟩

/-- The program that a complete list of tokens writes; what follows the end of the text is not
looked at. -/
def read (s : State) : List Located → Except SyntaxError Program
  | [] =>
    match s.mode.endLine? tagged with
    | some done => .ok (s.program ++ done)
    | none => .error (s.mode.refuse ⟨.eof, .unknown⟩)
  | t :: rest =>
    match t.token with
    | .eof =>
      match s.mode.endLine? tagged with
      | some done => .ok (s.program ++ done)
      | none => .error (s.mode.refuse t)
    | _ =>
      match s.take? tagged t with
      | some next => read next rest
      | none => .error (s.mode.refuse t)

def parse (tokens : List Located) : Except SyntaxError Program := read tagged .initial tokens

end SeriesScript.Parser

namespace SeriesScript

/-- The program that a text writes, with or without the spans of its parts. -/
def Program.parse (source : String) (tagged : Bool) : Except SyntaxError Program :=
  match Lexer.tokenize source with
  | .ok tokens => Parser.parse tagged tokens
  | .error e => .error e

end SeriesScript
