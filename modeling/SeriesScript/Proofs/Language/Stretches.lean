import SeriesScript.Proofs.Language.Derivation
import SeriesScript.Proofs.Language.Reading

/-!
# What was read, with its places

A mode stands for the tokens of its line, and every step of the reader that records spans keeps what
the mode stands for. So each statement is written by the tokens of its own line, places included.
-/
namespace SeriesScript.Derivation

open SeriesScript.Parser

/-- The tokens up to an operator that waits for its right operand. -/
inductive Awaits : Option Waiting → List Located → Prop
  | none : Awaits none []
  | operand {ts : List Located} {sign : Located} {e : Expr} {op : BinaryOp} (left : Derives ts e)
      (operator : sign.token = op.token) : Awaits (some ⟨e, op⟩) (ts ++ [sign])

inductive Links : Chain → List Located → Prop
  | intro {sum product : Option Waiting} {ts us : List Located} (outer : Awaits sum ts)
      (inner : Awaits product us) : Links ⟨sum, product⟩ (ts ++ us)

def Passes (args : List Expr) (ts : List Located) : Prop :=
  ∃ parts, Followed parts ts ∧ (∀ part ∈ parts, Derives part.tokens part.tree) ∧
    parts.map (·.tree) = args

inductive Opens : Goal → List Located → Prop
  | declare {word target sign : Located} {name : String} (keyword : word.token = .var)
      (named : target.token = .identifier name) (assign : sign.token = .assign) :
      Opens ⟨.declare name, word.span.start⟩ [word, target, sign]
  | assign {target sign : Located} {name : String} (named : target.token = .identifier name)
      (assign : sign.token = .assign) : Opens ⟨.assign name, target.span.start⟩ [target, sign]
  | print {word opens : Located} (keyword : word.token = .print) (left : opens.token = .leftParen) :
      Opens ⟨.print, word.span.start⟩ [word, opens]

/-- The tokens of a line up to its innermost open bracket, and up to the last comma there. -/
inductive Encloses (goal : Goal) : List Frame → List Located → Prop
  | line {ts : List Located} (h : Opens goal ts) : Encloses goal [] ts
  | group {frames : List Frame} {chain : Chain} {ts us : List Located} {opens : Located}
      (outer : Encloses goal frames ts) (before : Links chain us)
      (left : opens.token = .leftParen) :
      Encloses goal (.group chain :: frames) (ts ++ us ++ [opens])
  | call {frames : List Frame} {chain : Chain} {function : String} {args : List Expr}
      {ts us vs : List Located} {name opens : Located} (outer : Encloses goal frames ts)
      (before : Links chain us) (callee : name.token = .identifier function)
      (left : opens.token = .leftParen) (passed : Passes args vs) :
      Encloses goal (.call ⟨chain, function, name.span.start, args⟩ :: frames)
        (ts ++ us ++ name :: opens :: vs)

inductive Stands : Mode → List Located → Prop
  | lineStart : Stands .lineStart []
  | varName {word : Located} (keyword : word.token = .var) :
      Stands (.varName word.span.start) [word]
  | varAssign {word target : Located} {name : String} (keyword : word.token = .var)
      (named : target.token = .identifier name) :
      Stands (.varAssign word.span.start name) [word, target]
  | named {target : Located} {name : String} (named : target.token = .identifier name) :
      Stands (.named name target.span) [target]
  | printOpen {word : Located} (keyword : word.token = .print) :
      Stands (.printOpen word.span.start) [word]
  | operand {goal : Goal} {frames : List Frame} {chain : Chain} {ts us : List Located}
      (within : Encloses goal frames ts) (before : Links chain us) :
      Stands (.operand goal frames chain) (ts ++ us)
  | callee {goal : Goal} {frames : List Frame} {chain : Chain} {ts us : List Located}
      {target : Located} {name : String} (within : Encloses goal frames ts)
      (before : Links chain us) (named : target.token = .identifier name) :
      Stands (.callee goal frames chain name target.span) (ts ++ us ++ [target])
  | arguments {goal : Goal} {frames : List Frame} {c : OpenCall} {ts : List Located}
      (within : Encloses goal (.call c :: frames) ts) : Stands (.arguments goal frames c) ts
  | operator {goal : Goal} {frames : List Frame} {sum : Option Waiting} {term : Expr}
      {stop : Position} {ts us vs : List Located} (within : Encloses goal frames ts)
      (outer : Awaits sum us) (inner : Derives vs term) (ends : EndsAt vs stop) :
      Stands (.operator goal frames sum term stop) (ts ++ us ++ vs)
  | lineEnd {s : Statement} {ts : List Located} (line : DerivesLine ts s) : Stands (.lineEnd s) ts

variable {goal : Goal} {frames : List Frame} {chain : Chain} {c : OpenCall} {sum : Option Waiting}
  {term e : Expr} {args : List Expr} {stop : Position} {mode next : Mode} {t : Located}
  {ts us vs : List Located} {name : String}

theorem EndsAt.singleton (t : Located) : EndsAt [t] t.span.stop := ⟨[], t, rfl, rfl⟩

theorem EndsAt.behind (ts : List Located) (h : EndsAt us stop) : EndsAt (ts ++ us) stop := by
  obtain ⟨init, last, rfl, ends⟩ := h
  exact ⟨ts ++ init, last, (List.append_assoc _ _ _).symm, ends⟩

theorem Links.empty : Links .empty [] := .intro .none .none

theorem Passes.none : Passes [] [] := ⟨[], .none, List.forall_mem_nil _, rfl⟩

theorem Passes.comma (h : Passes args ts) (last : Derives us e) (sign : t.token = .comma) :
    Passes (args ++ [e]) (ts ++ us ++ [t]) := by
  obtain ⟨parts, followed, each, rfl⟩ := h
  refine ⟨parts ++ [⟨us, e⟩], followed.part ⟨us, e⟩ sign, ?_, by rw [List.map_append]; rfl⟩
  exact List.forall_mem_append.mpr ⟨each, List.forall_mem_singleton.mpr last⟩

theorem Awaits.join (h : Awaits sum ts) (right : Derives us e) :
    Derives (ts ++ us) (joinWaiting sum e) := by
  cases h with
  | none => exact right
  | operand left operator =>
    rw [List.append_assoc]
    exact .operation left operator right

theorem stands_operandRead (within : Encloses goal frames ts) (before : Links chain us)
    (operand : Derives vs e) (ends : EndsAt vs stop) :
    Stands (operandRead goal frames chain e stop) (ts ++ us ++ vs) := by
  cases before with
  | @intro sum product us₁ us₂ outer inner =>
    have read := Stands.operator within outer (inner.join operand) (ends.behind us₂)
    simpa [operandRead] using read

theorem stands_startOperand (within : Encloses goal frames ts) (before : Links chain us)
    (step : startOperand true goal frames chain t = some next) :
    Stands next (ts ++ us ++ [t]) := by
  rw [startOperand] at step
  split at step
  case h_1 name named =>
    cases step
    exact .callee within before named
  case h_2 left =>
    cases step
    simpa using Stands.operand (within.group before left) Links.empty
  case h_3 =>
    obtain ⟨value, literal, rfl⟩ := Option.map_eq_some_iff.mp step
    exact stands_operandRead within before (.literal literal) (.singleton t)

/-- A call whose arguments are all read, with its closing bracket. -/
theorem stands_closeCall {parts : List Part} {function opens : Located}
    (within : Encloses goal frames ts) (before : Links chain us)
    (callee : function.token = .identifier name) (left : opens.token = .leftParen)
    (listed : Listed parts vs) (each : ∀ part ∈ parts, Derives part.tokens part.tree)
    (right : t.token = .rightParen) :
    Stands (closeCall true goal frames ⟨chain, name, function.span.start, args⟩
        (parts.map (·.tree)) t.span.stop)
      (ts ++ us ++ function :: opens :: (vs ++ [t])) :=
  stands_operandRead within before (.call callee left listed each right)
    ((EndsAt.singleton t).behind (function :: opens :: vs))

theorem derivesLine_of_complete {s : Statement} (opens : Opens goal ts) (value : Derives us e)
    (ends : EndsAt us stop) (h : goal.complete? true e stop = some s) :
    DerivesLine (ts ++ us) s := by
  cases opens with
  | declare keyword named assign =>
    cases h
    exact .declare keyword named assign value ends
  | assign named assign =>
    cases h
    exact .assign named assign value ends
  | print => simp [Goal.complete?] at h

theorem stands_continueExpr (within : Encloses goal frames ts) (outer : Awaits sum us)
    (inner : Derives vs term) (step : continueExpr true goal frames sum term t = some next) :
    Stands next (ts ++ us ++ vs ++ [t]) := by
  have whole := outer.join inner
  unfold continueExpr at step
  split at step
  case h_1 token =>
    cases step
    have waits : Awaits (some ⟨term, .multiply⟩) (vs ++ [t]) := .operand inner token
    simpa using Stands.operand within (.intro outer waits)
  case h_2 token =>
    cases step
    have waits : Awaits (some ⟨term, .divide⟩) (vs ++ [t]) := .operand inner token
    simpa using Stands.operand within (.intro outer waits)
  case h_3 token =>
    cases step
    have waits : Awaits (some ⟨joinWaiting sum term, .add⟩) (us ++ vs ++ [t]) :=
      .operand whole token
    simpa using Stands.operand within (.intro waits .none)
  case h_4 token =>
    cases step
    have waits : Awaits (some ⟨joinWaiting sum term, .subtract⟩) (us ++ vs ++ [t]) :=
      .operand whole token
    simpa using Stands.operand within (.intro waits .none)
  case h_5 c rest token =>
    cases step
    cases within with
    | call out before callee left passed =>
      simpa using Stands.arguments (out.call before callee left (passed.comma whole token))
  case h_6 chain rest token =>
    cases step
    cases within with
    | @group _ _ _ _ opens out before left =>
      have ends := (EndsAt.singleton t).behind (opens :: (us ++ vs))
      simpa using stands_operandRead out before (.group left whole token) ends
  case h_7 c rest token =>
    cases step
    cases within with
    | call out before callee left passed =>
      obtain ⟨parts, followed, each, rfl⟩ := passed
      let last : Part := ⟨us ++ vs, joinWaiting sum term⟩
      have all : ∀ part ∈ parts ++ [last], Derives part.tokens part.tree :=
        List.forall_mem_append.mpr ⟨each, List.forall_mem_singleton.mpr whole⟩
      simpa [last] using stands_closeCall out before callee left (.last followed last) all token
  case h_8 token =>
    cases within with
    | line opens =>
      cases opens with
      | print keyword left =>
        cases step
        simpa [Goal.statement, tag] using Stands.lineEnd (.print keyword left whole token)
      | _ => cases step
  case h_9 => cases step

theorem stands_callee {target : Located} (within : Encloses goal frames ts)
    (before : Links chain us) (named : target.token = .identifier name)
    (step : (Mode.callee goal frames chain name target.span).take? true t = some next) :
    Stands next (ts ++ us ++ [target] ++ [t]) := by
  simp only [Mode.take?] at step
  split at step
  case h_1 left =>
    cases step
    simpa using Stands.arguments (within.call before named left .none)
  case h_2 =>
    cases before with
    | intro outer inner =>
      have term := inner.join (.reference named)
      simpa using stands_continueExpr within outer term step

theorem stands_arguments (within : Encloses goal (.call c :: frames) ts)
    (step : (Mode.arguments goal frames c).take? true t = some next) : Stands next (ts ++ [t]) := by
  simp only [Mode.take?] at step
  split at step
  case h_1 right =>
    cases step
    cases within with
    | call out before callee left passed =>
      obtain ⟨parts, followed, each, rfl⟩ := passed
      simpa using stands_closeCall out before callee left (.followed followed) each right
  case h_2 => simpa using stands_startOperand within Links.empty step

theorem stands_opening (opens : Opens goal ts) : Stands (.operand goal [] .empty) ts := by
  simpa using Stands.operand (.line opens) Links.empty

/-- The tokens that a mode stands for grow by the token that is taken. -/
theorem Stands.take (h : Stands mode ts) (step : mode.take? true t = some next) :
    Stands next (ts ++ [t]) := by
  cases h with
  | lineStart =>
    simp only [Mode.take?] at step
    split at step
    case h_1 keyword =>
      cases step
      exact .varName keyword
    case h_2 keyword =>
      cases step
      exact .printOpen keyword
    case h_3 name named =>
      cases step
      exact .named named
    case h_4 => cases step
  | varName keyword =>
    simp only [Mode.take?] at step
    split at step
    case h_1 name named =>
      cases step
      exact .varAssign keyword named
    case h_2 => cases step
  | varAssign keyword named =>
    simp only [Mode.take?] at step
    split at step
    case h_1 assign =>
      cases step
      exact stands_opening (.declare keyword named assign)
    case h_2 => cases step
  | named named =>
    simp only [Mode.take?] at step
    split at step
    case h_1 assign =>
      cases step
      exact stands_opening (.assign named assign)
    case h_2 => cases step
  | printOpen keyword =>
    simp only [Mode.take?] at step
    split at step
    case h_1 left =>
      cases step
      exact stands_opening (.print keyword left)
    case h_2 => cases step
  | operand within before => exact stands_startOperand within before step
  | callee within before named => exact stands_callee within before named step
  | arguments within => exact stands_arguments within step
  | operator within outer inner ends => exact stands_continueExpr within outer inner step
  | lineEnd => cases step

theorem Stands.endLine {done : List Statement} (h : Stands mode ts)
    (ends : mode.endLine? true = some done) :
    (done = [] ∧ ts = []) ∨ ∃ s, done = [s] ∧ DerivesLine ts s := by
  cases h with
  | lineStart =>
    cases ends
    exact .inl ⟨rfl, rfl⟩
  | lineEnd line =>
    cases ends
    exact .inr ⟨_, rfl, line⟩
  | @callee goal frames chain ts us target name within before named =>
    cases frames with
    | cons => cases ends
    | nil =>
      obtain ⟨s, complete, rfl⟩ := Option.map_eq_some_iff.mp ends
      cases within with
      | line opens =>
        cases before with
        | @intro sum product us₁ us₂ outer inner =>
          have value := outer.join (inner.join (.reference named))
          have stop := (EndsAt.singleton target).behind (us₁ ++ us₂)
          have line := derivesLine_of_complete opens value (by simpa using stop) complete
          exact .inr ⟨s, rfl, by simpa using line⟩
  | @operator goal frames sum term stop ts us vs within outer inner stops =>
    cases frames with
    | cons => cases ends
    | nil =>
      obtain ⟨s, complete, rfl⟩ := Option.map_eq_some_iff.mp ends
      cases within with
      | line opens =>
        have line := derivesLine_of_complete opens (outer.join inner) (stops.behind us) complete
        exact .inr ⟨s, rfl, by simpa using line⟩
  | _ => cases ends

/-- A text that is read from any place in a line on adds the statements of its lines. -/
theorem derivesLines_of_read {body : List Located} {last : Located} {p q : Program}
    (inside : ∀ t ∈ body, t.token ≠ .eof) (eof : last.token = .eof) (current : Stands mode ts)
    (h : read true ⟨p, mode⟩ (body ++ [last]) = .ok q) :
    ∃ added, q = p ++ added ∧ DerivesLines (ts ++ body) added := by
  induction body generalizing mode p ts with
  | nil =>
    rcases read_cons_ok h with ⟨-, done, ends, rfl⟩ | ⟨newline, -⟩ | ⟨next, taken, -⟩
    · refine ⟨done, rfl, ?_⟩
      rw [List.append_nil]
      rcases current.endLine ends with ⟨rfl, rfl⟩ | ⟨s, rfl, line⟩
      · exact .none
      · exact .last line
    · simp [eof] at newline
    · simp [Mode.take?_end (.inr eof)] at taken
  | cons t body ih =>
    obtain ⟨first, others⟩ := List.forall_mem_cons.mp inside
    rcases read_cons_ok h with ⟨eof, -⟩ | ⟨newline, done, ends, later⟩ | ⟨next, taken, later⟩
    · exact absurd eof first
    · obtain ⟨added, rfl, lines⟩ := ih others .lineStart later
      refine ⟨done ++ added, List.append_assoc _ _ _, ?_⟩
      rcases current.endLine ends with ⟨rfl, rfl⟩ | ⟨s, rfl, line⟩
      · exact .blank newline lines
      · exact .line line newline lines
    · obtain ⟨added, rfl, lines⟩ := ih others (current.take taken) later
      exact ⟨added, rfl, by simpa using lines⟩

theorem derivesLines_of_parse {body : List Located} {last : Located} {p : Program}
    (inside : ∀ t ∈ body, t.token ≠ .eof) (eof : last.token = .eof)
    (h : parse true (body ++ [last]) = .ok p) : DerivesLines body p := by
  obtain ⟨added, rfl, lines⟩ := derivesLines_of_read inside eof .lineStart h
  exact lines

end SeriesScript.Derivation
