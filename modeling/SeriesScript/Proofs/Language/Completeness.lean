import SeriesScript.Proofs.Language.Erasure
import SeriesScript.Proofs.Language.Grammar
import SeriesScript.Proofs.Language.Reading

/-!
# What follows the grammar is read

For each phrase, the tokens of its derivation lead the reader from the mode where the phrase may
start to a mode behind it that holds its tree. There is one lemma for each rule of the grammar; the
derivation then assembles them.
-/
namespace SeriesScript.Parser

open Grammar

/-- The modes behind a complete operand, with the sum and the product that are read so far. A name
is an operand that may still become a call. -/
inductive Behind (tagged : Bool) (goal : Goal) (frames : List Frame) :
    Option Waiting → Expr → Mode → Prop
  | operator (sum : Option Waiting) (term : Expr) (stop : Position) :
      Behind tagged goal frames sum term (.operator goal frames sum term stop)
  | callee (chain : Chain) (name : String) (span : Span) :
      Behind tagged goal frames chain.sum (joinWaiting chain.product (referenceTo tagged name span))
        (.callee goal frames chain name span)

section Behind

variable {tagged : Bool} {goal : Goal} {frames : List Frame} {sum : Option Waiting} {term : Expr}
  {mode : Mode} {t : Located}

theorem Behind.take? (h : Behind tagged goal frames sum term mode)
    (noCall : t.token ≠ .leftParen) :
    mode.take? tagged t = continueExpr tagged goal frames sum term t := by
  cases h with
  | operator => rfl
  | callee => simp [Mode.take?]

theorem Behind.comma {c : OpenCall} (h : Behind tagged goal (.call c :: frames) sum term mode)
    (comma : t.token = .comma) :
    mode.take? tagged t =
      some (.arguments goal frames { c with args := c.args ++ [joinWaiting sum term] }) := by
  rw [h.take? (by simp [comma])]
  simp only [continueExpr, comma]

theorem Behind.endLine? (h : Behind tagged goal [] sum term mode) :
    ∃ stop, mode.endLine? tagged =
      (goal.complete? tagged (joinWaiting sum term) stop).map ([·]) := by
  cases h with
  | operator sum term stop => exact ⟨stop, rfl⟩
  | callee chain name span => exact ⟨span.stop, rfl⟩

/-- An operator behind an operand opens the next one, and the reader goes on from there. -/
theorem Behind.takeAll?_operator {start resume next : Mode} {before after : List Located}
    (behind : Behind tagged goal frames sum term mode)
    (taken : start.takeAll? tagged before = some mode) (noCall : t.token ≠ .leftParen)
    (waits : continueExpr tagged goal frames sum term t = some resume)
    (others : resume.takeAll? tagged after = some next) :
    start.takeAll? tagged (before ++ t :: after) = some next := by
  rw [← behind.take? noCall] at waits
  simp only [Mode.takeAll?_append, taken, Option.bind_some, Mode.takeAll?_cons, waits, others]

end Behind

/-- Where a token stands among others, the located tokens are cut in front of it and behind it. -/
theorem exists_cut {ts : List Located} {us vs : List Token} {sign : Token}
    (tokens : ts.map (·.token) = us ++ sign :: vs) :
    ∃ before t after, ts = before ++ t :: after ∧ before.map (·.token) = us ∧ t.token = sign ∧
      after.map (·.token) = vs := by
  obtain ⟨before, _, rfl, beforeTokens, tokens⟩ := List.map_eq_append_iff.mp tokens
  obtain ⟨t, after, rfl, token, afterTokens⟩ := List.map_eq_cons_iff.mp tokens
  exact ⟨before, t, after, rfl, beforeTokens, token, afterTokens⟩

variable (tagged : Bool)

/-- The reader takes the tokens as an operand, wherever one may stand. -/
def TakenAsOperand (us : List Token) (e : Expr) : Prop :=
  ∀ (goal : Goal) (frames : List Frame) (chain : Chain) (ts : List Located),
    ts.map (·.token) = us → ∃ mode f,
      (Mode.operand goal frames chain).takeAll? tagged ts = some mode ∧
        Behind tagged goal frames chain.sum (joinWaiting chain.product f) mode ∧
        f.eraseSpans = e

def TakenAsProduct (us : List Token) (e : Expr) : Prop :=
  ∀ (goal : Goal) (frames : List Frame) (sum : Option Waiting) (ts : List Located),
    ts.map (·.token) = us → ∃ mode term,
      (Mode.operand goal frames ⟨sum, none⟩).takeAll? tagged ts = some mode ∧
        Behind tagged goal frames sum term mode ∧ term.eraseSpans = e

def TakenAsSum (us : List Token) (e : Expr) : Prop :=
  ∀ (goal : Goal) (frames : List Frame) (ts : List Located),
    ts.map (·.token) = us → ∃ mode sum term,
      (Mode.operand goal frames .empty).takeAll? tagged ts = some mode ∧
        Behind tagged goal frames sum term mode ∧ (joinWaiting sum term).eraseSpans = e

/-- The last of the listed expressions is not among the arguments of the open call yet. -/
def TakenAsListed (us : List Token) (es : List Expr) : Prop :=
  ∀ (goal : Goal) (frames : List Frame) (c : OpenCall) (ts : List Located),
    ts.map (·.token) = us → ∃ mode args sum term,
      (Mode.arguments goal frames c).takeAll? tagged ts = some mode ∧
        Behind tagged goal (.call { c with args := args } :: frames) sum term mode ∧
        Expr.eraseSpansIn (args ++ [joinWaiting sum term]) = Expr.eraseSpansIn c.args ++ es

def TakenAsArguments (us : List Token) (es : List Expr) : Prop :=
  ∀ (goal : Goal) (frames : List Frame) (c : OpenCall) (ts : List Located) (last : Located),
    ts.map (·.token) = us → last.token = .rightParen → ∃ args,
      (Mode.arguments goal frames c).takeAll? tagged (ts ++ [last]) =
        some (closeCall tagged goal frames c args last.span.stop) ∧
        Expr.eraseSpansIn args = Expr.eraseSpansIn c.args ++ es

variable {tagged} {us vs : List Token} {e f : Expr} {es : List Expr}

theorem TakenAsOperand.literal {token : Token} {value : Literal}
    (h : literalOf? token = some value) : TakenAsOperand tagged [token] (.literal value none) := by
  intro goal frames chain ts tokens
  obtain ⟨t, rfl, rfl⟩ := List.map_eq_singleton_iff.mp tokens
  have step := startOperand_literal tagged goal frames chain h
  exact ⟨_, .literal value (tag tagged t.span.start t.span.stop),
    Mode.takeAll?_singleton.trans step, .operator _ _ _, rfl⟩

theorem TakenAsOperand.reference (name : String) :
    TakenAsOperand tagged [.identifier name] (.reference name none) := by
  intro goal frames chain ts tokens
  obtain ⟨t, rfl, token⟩ := List.map_eq_singleton_iff.mp tokens
  have step := startOperand_identifier tagged goal frames chain token
  exact ⟨_, referenceTo tagged name t.span, Mode.takeAll?_singleton.trans step,
    .callee chain name t.span, rfl⟩

theorem TakenAsOperand.call (function : String) (h : TakenAsArguments tagged us es) :
    TakenAsOperand tagged (.identifier function :: .leftParen :: (us ++ [.rightParen]))
      (.call function es none) := by
  intro goal frames chain ts tokens
  obtain ⟨name, _, rfl, nameToken, tokens⟩ := List.map_eq_cons_iff.mp tokens
  obtain ⟨bracket, _, rfl, bracketToken, tokens⟩ := List.map_eq_cons_iff.mp tokens
  obtain ⟨inner, _, rfl, innerTokens, tokens⟩ := List.map_eq_append_iff.mp tokens
  obtain ⟨last, rfl, lastToken⟩ := List.map_eq_singleton_iff.mp tokens
  let c : OpenCall := ⟨chain, function, name.span.start, []⟩
  obtain ⟨args, taken, erased⟩ := h goal frames c inner last innerTokens lastToken
  have named : (Mode.operand goal frames chain).take? tagged name =
      some (.callee goal frames chain function name.span) :=
    startOperand_identifier tagged goal frames chain nameToken
  have opened : (Mode.callee goal frames chain function name.span).take? tagged bracket =
      some (.arguments goal frames c) := by
    simp only [Mode.take?, bracketToken, c]
  refine ⟨closeCall tagged goal frames c args last.span.stop,
    .call function args (tag tagged name.span.start last.span.stop), ?_, .operator _ _ _, ?_⟩
  · simp only [Mode.takeAll?_cons, named, opened, Option.bind_some, taken]
  · rw [Expr.eraseSpans, erased, Expr.eraseSpansIn, List.nil_append]

theorem TakenAsOperand.group (h : TakenAsSum tagged us e) :
    TakenAsOperand tagged (.leftParen :: (us ++ [.rightParen])) e := by
  intro goal frames chain ts tokens
  obtain ⟨bracket, _, rfl, bracketToken, tokens⟩ := List.map_eq_cons_iff.mp tokens
  obtain ⟨inner, _, rfl, innerTokens, tokens⟩ := List.map_eq_append_iff.mp tokens
  obtain ⟨last, rfl, lastToken⟩ := List.map_eq_singleton_iff.mp tokens
  obtain ⟨mode, sum, term, taken, behind, erased⟩ :=
    h goal (.group chain :: frames) inner innerTokens
  have opened : (Mode.operand goal frames chain).take? tagged bracket =
      some (.operand goal (.group chain :: frames) .empty) :=
    startOperand_leftParen tagged goal frames chain bracketToken
  have closed : mode.take? tagged last =
      some (operandRead goal frames chain (joinWaiting sum term) last.span.stop) := by
    rw [behind.take? (by simp [lastToken])]
    simp only [continueExpr, lastToken]
  refine ⟨_, joinWaiting sum term, ?_, .operator _ _ last.span.stop, erased⟩
  simp only [Mode.takeAll?_cons, opened, Option.bind_some, Mode.takeAll?_append, taken, closed,
    Mode.takeAll?_nil, operandRead]

theorem TakenAsProduct.operand (h : TakenAsOperand tagged us e) : TakenAsProduct tagged us e := by
  intro goal frames sum ts tokens
  obtain ⟨mode, f, taken, behind, erased⟩ := h goal frames ⟨sum, none⟩ ts tokens
  exact ⟨mode, f, taken, behind, erased⟩

theorem TakenAsProduct.operator {sign : Token} {op : BinaryOp} (noCall : sign ≠ .leftParen)
    (waits : ∀ goal frames sum term (t : Located), t.token = sign →
      continueExpr tagged goal frames sum term t =
        some (.operand goal frames ⟨sum, some ⟨term, op⟩⟩))
    (left : TakenAsProduct tagged us e) (right : TakenAsOperand tagged vs f) :
    TakenAsProduct tagged (us ++ sign :: vs) (.binary op e f none) := by
  intro goal frames sum ts tokens
  obtain ⟨before, t, after, rfl, beforeTokens, token, afterTokens⟩ := exists_cut tokens
  obtain ⟨mode, term, taken, behind, rfl⟩ := left goal frames sum before beforeTokens
  obtain ⟨next, g, others, stands, rfl⟩ :=
    right goal frames ⟨sum, some ⟨term, op⟩⟩ after afterTokens
  exact ⟨next, term.join op g, behind.takeAll?_operator taken (token ▸ noCall)
    (waits goal frames sum term t token) others, stands, Expr.eraseSpans_join term g op⟩

theorem TakenAsSum.product (h : TakenAsProduct tagged us e) : TakenAsSum tagged us e := by
  intro goal frames ts tokens
  obtain ⟨mode, term, taken, behind, erased⟩ := h goal frames none ts tokens
  exact ⟨mode, none, term, taken, behind, erased⟩

theorem TakenAsSum.operator {sign : Token} {op : BinaryOp} (noCall : sign ≠ .leftParen)
    (waits : ∀ goal frames sum term (t : Located), t.token = sign →
      continueExpr tagged goal frames sum term t =
        some (.operand goal frames ⟨some ⟨joinWaiting sum term, op⟩, none⟩))
    (left : TakenAsSum tagged us e) (right : TakenAsProduct tagged vs f) :
    TakenAsSum tagged (us ++ sign :: vs) (.binary op e f none) := by
  intro goal frames ts tokens
  obtain ⟨before, t, after, rfl, beforeTokens, token, afterTokens⟩ := exists_cut tokens
  obtain ⟨mode, sum, term, taken, behind, rfl⟩ := left goal frames before beforeTokens
  let waiting : Waiting := ⟨joinWaiting sum term, op⟩
  obtain ⟨next, g, others, stands, rfl⟩ := right goal frames (some waiting) after afterTokens
  exact ⟨next, some waiting, g, behind.takeAll?_operator taken (token ▸ noCall)
    (waits goal frames sum term t token) others, stands, Expr.eraseSpans_join _ g op⟩

/-- An argument starts like any operand; only the end of the call is taken otherwise. -/
theorem takeAll?_arguments {goal : Goal} {frames : List Frame} {c : OpenCall} {sum : Option Waiting}
    {term : Expr} {mode : Mode} {ts : List Located}
    (taken : (Mode.operand goal (.call c :: frames) .empty).takeAll? tagged ts = some mode)
    (behind : Behind tagged goal (.call c :: frames) sum term mode) :
    (Mode.arguments goal frames c).takeAll? tagged ts = some mode := by
  cases ts with
  | nil =>
    cases taken
    cases behind
  | cons t ts =>
    by_cases ends : t.token = .rightParen
    · simp [Mode.take?, startOperand, literalOf?, ends] at taken
    · have step : (Mode.arguments goal frames c).take? tagged t =
          (Mode.operand goal (.call c :: frames) .empty).take? tagged t := by
        simp [Mode.take?]
      rw [Mode.takeAll?_cons, step]
      exact taken

theorem TakenAsListed.one (h : TakenAsSum tagged us e) : TakenAsListed tagged us [e] := by
  intro goal frames c ts tokens
  obtain ⟨mode, sum, term, taken, behind, rfl⟩ := h goal (.call c :: frames) ts tokens
  refine ⟨mode, c.args, sum, term, takeAll?_arguments taken behind, behind, ?_⟩
  rw [Expr.eraseSpansIn_append, Expr.eraseSpansIn_singleton]

theorem TakenAsListed.more (init : TakenAsListed tagged us es) (last : TakenAsSum tagged vs e) :
    TakenAsListed tagged (us ++ .comma :: vs) (es ++ [e]) := by
  intro goal frames c ts tokens
  obtain ⟨before, comma, after, rfl, beforeTokens, commaToken, afterTokens⟩ := exists_cut tokens
  obtain ⟨mode, args, sum, term, taken, behind, erased⟩ :=
    init goal frames c before beforeTokens
  let extended : OpenCall := { c with args := args ++ [joinWaiting sum term] }
  have step : mode.take? tagged comma = some (.arguments goal frames extended) :=
    behind.comma commaToken
  obtain ⟨next, sum', term', others, stands, rfl⟩ :=
    last goal (.call extended :: frames) after afterTokens
  refine ⟨next, extended.args, sum', term', ?_, stands, ?_⟩
  · simp only [Mode.takeAll?_append, taken, Option.bind_some, Mode.takeAll?_cons, step,
      takeAll?_arguments others stands]
  · rw [Expr.eraseSpansIn_append, erased, Expr.eraseSpansIn_singleton, List.append_assoc]

theorem TakenAsArguments.none : TakenAsArguments tagged [] [] := by
  intro goal frames c ts last tokens lastToken
  obtain rfl := List.map_eq_nil_iff.mp tokens
  refine ⟨c.args, ?_, by simp⟩
  simp only [List.nil_append, Mode.takeAll?_singleton, Mode.take?, lastToken]

theorem TakenAsArguments.listed (h : TakenAsListed tagged us es) :
    TakenAsArguments tagged us es := by
  intro goal frames c ts last tokens lastToken
  obtain ⟨mode, args, sum, term, taken, behind, erased⟩ := h goal frames c ts tokens
  refine ⟨args ++ [joinWaiting sum term], ?_, erased⟩
  rw [Mode.takeAll?_append, taken, Option.bind_some, Mode.takeAll?_singleton,
    behind.take? (by simp [lastToken])]
  simp only [continueExpr, lastToken, closeCall]

theorem TakenAsArguments.trailingComma (h : TakenAsListed tagged us es) :
    TakenAsArguments tagged (us ++ [.comma]) es := by
  intro goal frames c ts last tokens lastToken
  obtain ⟨before, _, rfl, beforeTokens, tokens⟩ := List.map_eq_append_iff.mp tokens
  obtain ⟨comma, rfl, commaToken⟩ := List.map_eq_singleton_iff.mp tokens
  obtain ⟨mode, args, sum, term, taken, behind, erased⟩ := h goal frames c before beforeTokens
  let extended : OpenCall := { c with args := args ++ [joinWaiting sum term] }
  have step : mode.take? tagged comma = some (.arguments goal frames extended) :=
    behind.comma commaToken
  refine ⟨extended.args, ?_, erased⟩
  rw [Mode.takeAll?_append, Mode.takeAll?_append, taken, Option.bind_some,
    Mode.takeAll?_singleton, step, Option.bind_some, Mode.takeAll?_singleton]
  simp only [Mode.take?, lastToken, closeCall, extended]

mutual

theorem taken_of_operand (tagged : Bool) {us : List Token} {e : Expr} :
    Operand us e → TakenAsOperand tagged us e
  | .integer _ => .literal rfl
  | .decimal _ => .literal rfl
  | .text _ => .literal rfl
  | .unit _ => .literal rfl
  | .reduction _ => .literal rfl
  | .reference name => .reference name
  | .call function h => .call function (taken_of_arguments tagged h)
  | .group h => .group (taken_of_sum tagged h)

theorem taken_of_product (tagged : Bool) {us : List Token} {e : Expr} :
    Product us e → TakenAsProduct tagged us e
  | .operand h => .operand (taken_of_operand tagged h)
  | .multiply left right =>
    .operator (by simp) (fun _ _ _ _ _ h => by simp only [continueExpr, h])
      (taken_of_product tagged left) (taken_of_operand tagged right)
  | .divide left right =>
    .operator (by simp) (fun _ _ _ _ _ h => by simp only [continueExpr, h])
      (taken_of_product tagged left) (taken_of_operand tagged right)

theorem taken_of_sum (tagged : Bool) {us : List Token} {e : Expr} :
    Sum us e → TakenAsSum tagged us e
  | .product h => .product (taken_of_product tagged h)
  | .add left right =>
    .operator (by simp) (fun _ _ _ _ _ h => by simp only [continueExpr, h])
      (taken_of_sum tagged left) (taken_of_product tagged right)
  | .subtract left right =>
    .operator (by simp) (fun _ _ _ _ _ h => by simp only [continueExpr, h])
      (taken_of_sum tagged left) (taken_of_product tagged right)

theorem taken_of_listed (tagged : Bool) {us : List Token} {es : List Expr} :
    Listed us es → TakenAsListed tagged us es
  | .one h => .one (taken_of_sum tagged h)
  | .more init last => .more (taken_of_listed tagged init) (taken_of_sum tagged last)

theorem taken_of_arguments (tagged : Bool) {us : List Token} {es : List Expr} :
    Arguments us es → TakenAsArguments tagged us es
  | .none => .none
  | .listed h => .listed (taken_of_listed tagged h)
  | .trailingComma h => .trailingComma (taken_of_listed tagged h)

end

end SeriesScript.Parser
