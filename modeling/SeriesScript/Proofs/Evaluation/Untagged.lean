import SeriesScript.Evaluation.Evaluate
import SeriesScript.Proofs.Evaluation.ValueErrors
import SeriesScript.Proofs.Language.Untagged

/-!
# Programs without spans

Spans are for messages only. A program that was read without recording them has the same scope
errors and runs in the same way; only where it says that an error is, there is nowhere to point to.
-/
namespace SeriesScript

def ScopeError.eraseSpan (e : ScopeError) : ScopeError := { e with span := .unknown }

/-- The same error; where it is about a place of the program, at no place. -/
def ScriptError.eraseSpan : ScriptError → ScriptError
  | invalid errors => .invalid (errors.map ScopeError.eraseSpan)
  | doubleDeclaration name _ => .doubleDeclaration name .unknown
  | notDeclared name _ => .notDeclared name .unknown
  | e => e

/-! ## The scope check -/

mutual

theorem Expr.references_eraseSpans (e : Expr) :
    e.eraseSpans.references = e.references.map fun r => { r with span := none } := by
  match e with
  | .literal _ _ | .reference _ _ => rfl
  | .binary _ left right _ =>
    simp only [Expr.eraseSpans, Expr.references, Expr.references_eraseSpans left,
      Expr.references_eraseSpans right, List.map_append]
  | .call _ args _ => simp only [Expr.eraseSpans, Expr.references, Expr.referencesIn_eraseSpans args]

theorem Expr.referencesIn_eraseSpans (es : List Expr) :
    Expr.referencesIn (Expr.eraseSpansIn es) =
      (Expr.referencesIn es).map fun r => { r with span := none } := by
  match es with
  | [] => rfl
  | e :: rest =>
    simp only [Expr.eraseSpansIn, Expr.referencesIn, Expr.references_eraseSpans e,
      Expr.referencesIn_eraseSpans rest, List.map_append]

end

section ScopeCheck

variable (declared visible : List String)

theorem Expr.scopeErrors_eraseSpans (e : Expr) :
    e.eraseSpans.scopeErrors declared visible =
      (e.scopeErrors declared visible).map ScopeError.eraseSpan := by
  rw [scopeErrors, scopeErrors, references_eraseSpans, List.filterMap_map, List.map_filterMap]
  congr 1
  funext r
  simp only [Function.comp_apply, Reference.scopeError?]
  split <;> rfl

theorem Statement.scopeErrors_eraseSpans (s : Statement) :
    s.eraseSpans.scopeErrors declared visible =
      (s.scopeErrors declared visible).map ScopeError.eraseSpan := by
  cases s with
  | declare name value span =>
    simp only [eraseSpans, scopeErrors, Expr.scopeErrors_eraseSpans, List.map_append]
    congr 1
    split <;> rfl
  | assign name value span =>
    simp only [eraseSpans, scopeErrors, Expr.scopeErrors_eraseSpans, List.map_append]
    congr 1
    split <;> rfl
  | print value span => exact value.scopeErrors_eraseSpans declared visible

theorem Program.scopeErrorsFrom_eraseSpans (program : Program) :
    scopeErrorsFrom declared visible program.eraseSpans =
      (scopeErrorsFrom declared visible program).map ScopeError.eraseSpan := by
  induction program generalizing visible with
  | nil => rfl
  | cons s rest ih =>
    have names : s.eraseSpans.visibleAfter visible = s.visibleAfter visible := by cases s <;> rfl
    rw [scopeErrorsFrom, List.map_append, ← Statement.scopeErrors_eraseSpans, ← ih, ← names]
    rfl

theorem Program.scopeErrors_eraseSpans (given : List String) (program : Program) :
    program.eraseSpans.scopeErrors given = (program.scopeErrors given).map ScopeError.eraseSpan := by
  have names : program.eraseSpans.declaredNames = program.declaredNames := by
    rw [declaredNames, declaredNames, eraseSpans, List.filterMap_map]
    congr 1
    funext s
    cases s <;> rfl
  rw [scopeErrors, scopeErrors, names, scopeErrorsFrom_eraseSpans]

end ScopeCheck

/-! ## Runs -/

/-- Operators and functions point to no place. -/
theorem FailsOnValues.mapError_eraseSpan {α : Type} {r : Except ScriptError α}
    (h : FailsOnValues r) : r.mapError ScriptError.eraseSpan = r := by
  cases r with
  | ok a => rfl
  | error e =>
    have about := h e rfl
    cases e <;> first | rfl | cases about

section Evaluation

variable (prefs : Window.Preferences) (b : Bindings)

mutual

theorem Expr.evaluate_eraseSpans (e : Expr) :
    e.eraseSpans.evaluate prefs b = (e.evaluate prefs b).mapError ScriptError.eraseSpan := by
  match e with
  | .literal _ _ => rfl
  | .reference name _ =>
    simp only [Expr.eraseSpans, Expr.evaluate]
    cases b.get? name <;> rfl
  | .binary op left right _ =>
    simp only [Expr.eraseSpans, Expr.evaluate, Expr.evaluate_eraseSpans left,
      Expr.evaluate_eraseSpans right]
    cases left.evaluate prefs b with
    | error e => rfl
    | ok x =>
      cases right.evaluate prefs b with
      | error e => rfl
      | ok y => exact (Value.apply_failsOnValues op x y).mapError_eraseSpan.symm
  | .call function args _ =>
    simp only [Expr.eraseSpans, Expr.evaluate, Expr.evaluateAll_eraseSpans args]
    cases Expr.evaluateAll prefs b args with
    | error e => rfl
    | ok values =>
      exact (callFunction_failsOnValues prefs b.earliest? function values).mapError_eraseSpan.symm

theorem Expr.evaluateAll_eraseSpans (es : List Expr) :
    Expr.evaluateAll prefs b (Expr.eraseSpansIn es) =
      (Expr.evaluateAll prefs b es).mapError ScriptError.eraseSpan := by
  match es with
  | [] => rfl
  | e :: rest =>
    simp only [Expr.eraseSpansIn, Expr.evaluateAll, Expr.evaluate_eraseSpans e,
      Expr.evaluateAll_eraseSpans rest]
    cases e.evaluate prefs b with
    | error e => rfl
    | ok v => cases Expr.evaluateAll prefs b rest <;> rfl

end

theorem Statement.execute_eraseSpans (s : Statement) :
    s.eraseSpans.execute prefs b = (s.execute prefs b).mapError ScriptError.eraseSpan := by
  cases s with
  | declare name value span =>
    simp only [eraseSpans, execute, Expr.evaluate_eraseSpans]
    split
    · rfl
    · cases value.evaluate prefs b with
      | error e => rfl
      | ok v => simp only [Except.mapError]; cases b.declare? name v <;> rfl
  | assign name value span =>
    simp only [eraseSpans, execute, Expr.evaluate_eraseSpans]
    split
    · cases value.evaluate prefs b with
      | error e => rfl
      | ok v => simp only [Except.mapError]; cases b.assign? name v <;> rfl
    · rfl
  | print value span =>
    simp only [eraseSpans, execute, Expr.evaluate_eraseSpans]
    cases value.evaluate prefs b <;> rfl

def Outcome.eraseSpan (o : Outcome) : Outcome :=
  ⟨o.printed, o.result.mapError ScriptError.eraseSpan⟩

theorem Program.execute_eraseSpans (program : Program) :
    execute prefs b program.eraseSpans = (execute prefs b program).eraseSpan := by
  induction program generalizing b with
  | nil => rfl
  | cons s rest ih =>
    change execute prefs b (s.eraseSpans :: eraseSpans rest) = _
    rw [execute, execute, Statement.execute_eraseSpans]
    cases s.execute prefs b with
    | error e => rfl
    | ok next => exact congrArg (Outcome.after next.2) (ih next.1)

end Evaluation

theorem Outcome.eraseSpan_eraseSpan (o : Outcome) : o.eraseSpan.eraseSpan = o.eraseSpan := by
  obtain ⟨printed, result⟩ := o
  cases result with
  | ok b => rfl
  | error e =>
    cases e <;> simp [eraseSpan, Except.mapError, ScriptError.eraseSpan, ScopeError.eraseSpan]

theorem Program.evaluate_eraseSpans (prefs : Window.Preferences) (store : Store)
    (program : Program) :
    (evaluate prefs store program.eraseSpans).eraseSpan =
      (evaluate prefs store program).eraseSpan := by
  rw [evaluate, evaluate]
  cases store.bindings with
  | ok b => simp only [execute_eraseSpans, Outcome.eraseSpan_eraseSpan]
  | error e => rfl

/-- A text that is read without recording spans gives the same program or the same fault as with
spans, of which none is then missing. And the program without its spans has the same scope errors in
the same order, all at no place, prints the same, and ends with the same bindings or, places aside,
with the same error. -/
theorem Program.parse_untagged (source : String) :
    Program.parse source false = (Program.parse source true).map Program.eraseSpans ∧
    ∀ p, Program.parse source true = .ok p →
      (∀ span ∈ p.spans, span.isSome = true) ∧
      (∀ given, p.eraseSpans.scopeErrors given =
        (p.scopeErrors given).map ScopeError.eraseSpan) ∧
      ∀ prefs store,
        let o := Program.evaluate prefs store p
        let o' := Program.evaluate prefs store p.eraseSpans
        o'.printed = o.printed ∧
          o'.result.mapError ScriptError.eraseSpan = o.result.mapError ScriptError.eraseSpan := by
  unfold Program.parse
  cases read : Lexer.tokenize source with
  | error e => exact ⟨rfl, nofun⟩
  | ok tokens =>
    have ends := Lexer.exists_eof_of_tokenize read
    refine ⟨Parser.parse_false ends, fun p parsed => ⟨Parser.isSome_of_mem_spans ends parsed,
      fun given => scopeErrors_eraseSpans given p, fun prefs store => ?_⟩⟩
    have same := evaluate_eraseSpans prefs store p
    have printed := congrArg Outcome.printed same
    have result := congrArg Outcome.result same
    exact ⟨printed, result⟩

def undeclared : String := "y = (late + 2) * Bin(late)"

theorem Program.parse_untagged_undeclared :
    ∃ p, Program.parse undeclared true = .ok p ∧
      Program.parse undeclared false = .ok p.eraseSpans ∧
      (∀ span ∈ p.spans, span.isSome = true) ∧
      p.scopeErrors [] = [⟨.notDeclared, "y", ⟨⟨1, 0⟩, ⟨1, 26⟩⟩⟩,
        ⟨.unknownVariable, "late", ⟨⟨1, 5⟩, ⟨1, 9⟩⟩⟩,
        ⟨.unknownVariable, "late", ⟨⟨1, 21⟩, ⟨1, 25⟩⟩⟩] ∧
      p.eraseSpans.scopeErrors [] = [⟨.notDeclared, "y", .unknown⟩,
        ⟨.unknownVariable, "late", .unknown⟩, ⟨.unknownVariable, "late", .unknown⟩] := by
  have errors : (Program.parse undeclared true).toOption.map (Program.scopeErrors []) =
      some [⟨.notDeclared, "y", ⟨⟨1, 0⟩, ⟨1, 26⟩⟩⟩,
        ⟨.unknownVariable, "late", ⟨⟨1, 5⟩, ⟨1, 9⟩⟩⟩,
        ⟨.unknownVariable, "late", ⟨⟨1, 21⟩, ⟨1, 25⟩⟩⟩] := by
    decide +kernel
  obtain ⟨same, whole⟩ := Program.parse_untagged undeclared
  cases read : Program.parse undeclared true with
  | error e =>
    rw [read] at errors
    cases errors
  | ok p =>
    rw [read] at errors same
    obtain ⟨recorded, scope, -⟩ := whole p read
    have found : p.scopeErrors [] = _ := Option.some.inj errors
    exact ⟨p, rfl, same, recorded, found, by rw [scope, found]; rfl⟩

end SeriesScript
