import SeriesScript.Language.Parser

/-!
# Steps of the reader

A token is the end of the text, or the end of a line, or is taken within a line. The tokens of one
line are taken one after the other, which leads from mode to mode with the program unchanged.
-/
namespace SeriesScript.Parser

variable {tagged : Bool} {mode next : Mode} {t : Located} {ts rest : List Located}
  {p q : Program} {done : List Statement}

/-- The end of a line and the end of the text are never taken within a line. -/
theorem continueExpr_end (tagged : Bool) (goal : Goal) (frames : List Frame)
    (sum : Option Waiting) (term : Expr) (h : t.token = .newline ∨ t.token = .eof) :
    continueExpr tagged goal frames sum term t = none := by
  rcases h with h | h
  all_goals
    cases frames with
    | nil => simp [continueExpr, h]
    | cons frame frames => cases frame <;> simp [continueExpr, h]

theorem Mode.take?_end (h : t.token = .newline ∨ t.token = .eof) :
    mode.take? tagged t = none := by
  cases mode with
  | callee goal frames chain name span =>
    have refused := continueExpr_end tagged goal frames chain.sum
      (joinWaiting chain.product (referenceTo tagged name span)) h
    rcases h with h | h <;> simpa [Mode.take?, h] using refused
  | operator goal frames sum term =>
    exact continueExpr_end tagged goal frames sum term h
  | _ => rcases h with h | h <;> simp [Mode.take?, startOperand, literalOf?, h]

section Operand

variable (tagged) (goal : Goal) (frames : List Frame) (chain : Chain)

theorem startOperand_identifier {name : String} (h : t.token = .identifier name) :
    startOperand tagged goal frames chain t = some (.callee goal frames chain name t.span) := by
  simp [startOperand, h]

theorem startOperand_leftParen (h : t.token = .leftParen) :
    startOperand tagged goal frames chain t =
      some (.operand goal (.group chain :: frames) .empty) := by
  simp [startOperand, h]

theorem startOperand_literal {value : Literal} (h : literalOf? t.token = some value) :
    startOperand tagged goal frames chain t =
      some (operandRead goal frames chain (.literal value (tag tagged t.span.start t.span.stop))
        t.span.stop) := by
  rw [startOperand]
  split
  case h_1 name token => simp [token, literalOf?] at h
  case h_2 token => simp [token, literalOf?] at h
  case h_3 => simp [h]

end Operand

def Mode.takeAll? (tagged : Bool) (mode : Mode) (ts : List Located) : Option Mode :=
  ts.foldlM (fun mode t => mode.take? tagged t) mode

namespace Mode

@[simp] theorem takeAll?_nil : mode.takeAll? tagged [] = some mode := rfl

@[simp] theorem takeAll?_cons :
    mode.takeAll? tagged (t :: ts) = (mode.take? tagged t).bind (·.takeAll? tagged ts) := rfl

@[simp] theorem takeAll?_singleton : mode.takeAll? tagged [t] = mode.take? tagged t :=
  Option.bind_fun_some _

@[simp] theorem takeAll?_append :
    mode.takeAll? tagged (ts ++ rest) =
      (mode.takeAll? tagged ts).bind (·.takeAll? tagged rest) := List.foldlM_append

end Mode

theorem read_cons_eof (h : t.token = .eof) (ends : mode.endLine? tagged = some done) :
    read tagged ⟨p, mode⟩ (t :: rest) = .ok (p ++ done) := by
  simp [read, h, ends]

theorem read_cons_newline (h : t.token = .newline) (ends : mode.endLine? tagged = some done) :
    read tagged ⟨p, mode⟩ (t :: rest) = read tagged ⟨p ++ done, .lineStart⟩ rest := by
  simp [read, State.take?, h, ends]

theorem read_cons_taken (h : mode.take? tagged t = some next) :
    read tagged ⟨p, mode⟩ (t :: rest) = read tagged ⟨p, next⟩ rest := by
  have notEof : t.token ≠ .eof := fun eof => by simp [Mode.take?_end (.inr eof)] at h
  have notNewline : t.token ≠ .newline := fun newline => by
    simp [Mode.take?_end (.inl newline)] at h
  simp [read, State.take?, h]

theorem read_append (h : mode.takeAll? tagged ts = some next) :
    read tagged ⟨p, mode⟩ (ts ++ rest) = read tagged ⟨p, next⟩ rest := by
  induction ts generalizing mode with
  | nil =>
    cases h
    rfl
  | cons t ts ih =>
    obtain ⟨mid, first, others⟩ := Option.bind_eq_some_iff.mp h
    exact (read_cons_taken first).trans (ih others)

theorem read_newlines (h : ∀ t ∈ ts, t.token = .newline) :
    read tagged ⟨p, .lineStart⟩ (ts ++ rest) = read tagged ⟨p, .lineStart⟩ rest := by
  induction ts with
  | nil => rfl
  | cons t ts ih =>
    obtain ⟨first, others⟩ := List.forall_mem_cons.mp h
    rw [List.cons_append, read_cons_newline first rfl, List.append_nil, ih others]

theorem read_cons_refused (taken : mode.take? tagged t = none)
    (ended : t.token = .newline ∨ t.token = .eof → mode.endLine? tagged = none) :
    read tagged ⟨p, mode⟩ (t :: rest) = .error (mode.refuse t) := by
  by_cases eof : t.token = .eof
  · simp [read, eof, ended (.inr eof)]
  by_cases newline : t.token = .newline
  · simp [read, State.take?, newline, ended (.inl newline)]
  · simp [read, State.take?, taken]

/-- What the reader can do with a token: one case for each of the equations above. -/
theorem read_cases (tagged : Bool) (mode : Mode) (t : Located) :
    (t.token = .eof ∧ ∃ done, mode.endLine? tagged = some done) ∨
    (t.token = .newline ∧ ∃ done, mode.endLine? tagged = some done) ∨
    (∃ next, mode.take? tagged t = some next) ∨
    (mode.take? tagged t = none ∧
      (t.token = .newline ∨ t.token = .eof → mode.endLine? tagged = none)) := by
  cases taken : mode.take? tagged t with
  | some next => exact .inr (.inr (.inl ⟨next, rfl⟩))
  | none =>
    cases ended : mode.endLine? tagged with
    | none => exact .inr (.inr (.inr ⟨rfl, fun _ => rfl⟩))
    | some done =>
      by_cases eof : t.token = .eof
      · exact .inl ⟨eof, done, rfl⟩
      by_cases newline : t.token = .newline
      · exact .inr (.inl ⟨newline, done, rfl⟩)
      · exact .inr (.inr (.inr ⟨rfl, fun h => absurd h (not_or.mpr ⟨newline, eof⟩)⟩))

/-- What the reader did with the first token of a text that it accepts. -/
theorem read_cons_ok (h : read tagged ⟨p, mode⟩ (t :: rest) = .ok q) :
    (t.token = .eof ∧ ∃ done, mode.endLine? tagged = some done ∧ q = p ++ done) ∨
    (t.token = .newline ∧ ∃ done, mode.endLine? tagged = some done ∧
      read tagged ⟨p ++ done, .lineStart⟩ rest = .ok q) ∨
    ∃ next, mode.take? tagged t = some next ∧ read tagged ⟨p, next⟩ rest = .ok q := by
  by_cases eof : t.token = .eof
  · left
    cases ends : mode.endLine? tagged with
    | none => simp [read, eof, ends] at h
    | some done =>
      rw [read_cons_eof eof ends] at h
      exact ⟨eof, done, rfl, (Except.ok.inj h).symm⟩
  right
  by_cases newline : t.token = .newline
  · left
    cases ends : mode.endLine? tagged with
    | none => simp [read, State.take?, newline, ends] at h
    | some done =>
      rw [read_cons_newline newline ends] at h
      exact ⟨newline, done, rfl, h⟩
  · right
    cases taken : mode.take? tagged t with
    | none => simp [read, State.take?, taken] at h
    | some next =>
      rw [read_cons_taken taken] at h
      exact ⟨next, rfl, h⟩

end SeriesScript.Parser
