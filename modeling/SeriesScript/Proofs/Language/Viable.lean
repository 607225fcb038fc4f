import SeriesScript.Proofs.Language.Acceptance

/-!
# Beginnings of scripts

Whatever the reader has taken begins a script: an operand completes the expression, closing brackets
complete the operands that it stands in, and the line completes the script. So no mode is a dead
end.
-/
namespace SeriesScript

namespace Grammar

/-- The tokens can be continued to a script. -/
def Viable (ts : List Token) : Prop := ∃ us q, Script (ts ++ us) q

theorem Viable.left {ts us : List Token} (h : Viable (ts ++ us)) : Viable ts := by
  obtain ⟨vs, q, script⟩ := h
  exact ⟨us ++ vs, q, by rwa [← List.append_assoc]⟩

end Grammar

namespace Parser

open Grammar

variable {tagged : Bool} {goal : Goal} {frames : List Frame} {chain : Chain} {e : Expr}
  {mode : Mode} {s next : State} {t : Located} {ts us vs : List Token}

/-! ## Lines -/

theorem Chain.Reads.join (h : chain.Reads us) (operand : Operand vs e.eraseSpans) :
    ∃ f : Expr, Sum (us ++ vs) f.eraseSpans := by
  cases h with
  | intro outer inner =>
    rw [List.append_assoc]
    exact ⟨_, outer.join (inner.join operand)⟩

/-- Behind a complete expression, a line ends after the brackets that are open. -/
theorem Within.exists_line (h : Within goal frames ts) (value : Sum us e.eraseSpans) :
    ∃ vs, ∃ s : Statement, Line (ts ++ us ++ vs) s.eraseSpans := by
  induction h generalizing us e with
  | line =>
    obtain ⟨purpose, start⟩ := goal
    cases purpose with
    | declare name =>
      refine ⟨[], .declare name e none, ?_⟩
      rw [List.append_nil]
      exact .declare name value
    | assign name =>
      refine ⟨[], .assign name e none, ?_⟩
      rw [List.append_nil]
      exact .assign name value
    | print =>
      refine ⟨[.rightParen], .print e none, ?_⟩
      rw [List.append_assoc]
      exact .print value
  | group outer before ih =>
    obtain ⟨f, whole⟩ := before.join (.group value)
    obtain ⟨rest, s, line⟩ := ih whole
    exact ⟨.rightParen :: rest, s, by simpa using line⟩
  | @call frames c ts _ _ outer before args ih =>
    have closed : Operand _ (Expr.call c.function (c.args ++ [e]) none).eraseSpans :=
      .call c.function (.listed (args.listed value))
    obtain ⟨f, whole⟩ := before.join closed
    obtain ⟨rest, s, line⟩ := ih whole
    exact ⟨.rightParen :: rest, s, by simpa using line⟩

theorem sum_zero : Sum [.integer 0] (Expr.literal (.integer 0) none).eraseSpans :=
  .product (.operand (.integer 0))

/-- A line that has begun can be completed. -/
theorem Mode.Reads.exists_line (h : mode.Reads ts) (begun : mode ≠ .lineStart) :
    ∃ us, ∃ s : Statement, Line (ts ++ us) s.eraseSpans := by
  cases h with
  | lineStart => exact absurd rfl begun
  | varName => exact ⟨_, .declare "x" _ none, .declare "x" sum_zero⟩
  | varAssign _ name => exact ⟨_, .declare name _ none, .declare name sum_zero⟩
  | named name => exact ⟨_, .assign name _ none, .assign name sum_zero⟩
  | printOpen => exact ⟨_, .print _ none, .print sum_zero⟩
  | operand within before =>
    obtain ⟨f, value⟩ := before.join (e := .literal (.integer 0) none) (.integer 0)
    obtain ⟨rest, s, line⟩ := within.exists_line value
    exact ⟨.integer 0 :: rest, s, by simpa using line⟩
  | callee name span within before =>
    obtain ⟨f, value⟩ := before.join (operand_of_reference false name span)
    obtain ⟨rest, s, line⟩ := within.exists_line value
    exact ⟨rest, s, by simpa using line⟩
  | arguments within =>
    obtain ⟨rest, s, line⟩ := within.exists_line sum_zero
    exact ⟨.integer 0 :: rest, s, by simpa using line⟩
  | operator stop within outer inner =>
    obtain ⟨rest, s, line⟩ := within.exists_line (outer.join inner)
    exact ⟨rest, s, by simpa using line⟩
  | lineEnd line => exact ⟨[], _, by simpa using line⟩

/-! ## Scripts -/

inductive State.Reads : State → List Token → Prop
  | intro {p : Program} {mode : Mode} {ts us : List Token} (lines : LinesRead p ts)
      (current : mode.Reads us) : State.Reads ⟨p, mode⟩ (ts ++ us)

theorem State.reads_initial : State.initial.Reads [] := .intro (.blank 0) .lineStart

/-- The tokens that lead to a state grow by the token that is taken. -/
theorem State.Reads.take (h : s.Reads ts) (step : s.take? tagged t = some next) :
    next.Reads (ts ++ [t.token]) := by
  obtain ⟨lines, current⟩ := h
  unfold State.take? at step
  split at step
  case h_1 newline =>
    obtain ⟨done, ends, rfl⟩ := Option.map_eq_some_iff.mp step
    rw [newline]
    simpa using State.Reads.intro (lines.endLine current ends) .lineStart
  case h_2 =>
    obtain ⟨mode, taken, rfl⟩ := Option.map_eq_some_iff.mp step
    rw [List.append_assoc]
    exact .intro lines (current.take taken)

theorem State.Reads.viable (h : s.Reads ts) : Viable ts := by
  obtain @⟨p, mode, ts, us, lines, current⟩ := h
  by_cases begun : mode = .lineStart
  · subst begun
    cases current
    exact ⟨[.eof], _, by simpa using lines.script⟩
  · obtain ⟨rest, s, line⟩ := current.exists_line begun
    obtain ⟨m, vs, tokens, whole⟩ := lines.line line
    refine ⟨rest ++ [.eof], Program.eraseSpans (p ++ [s]), ?_⟩
    have script := Script.lines m 0 whole
    rw [← tokens] at script
    simpa [newlines] using script

end Parser

end SeriesScript
