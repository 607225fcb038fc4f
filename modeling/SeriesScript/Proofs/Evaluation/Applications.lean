import SeriesScript.Proofs.Evaluation.Handled

/-!
# What is applied while a program runs

Each function that is called while an expression is evaluated stands in the expression, and an
operator or a function that fails ends the evaluation, the statement and the run with its error.
-/
namespace SeriesScript

variable {prefs : Window.Preferences} {b : Bindings} {e : ScriptError} {a : Application}

mutual

def Expr.functions : Expr → List String
  | .literal _ _ => []
  | .reference _ _ => []
  | .binary _ left right _ => left.functions ++ right.functions
  | .call name args _ => name :: Expr.functionsIn args

def Expr.functionsIn : List Expr → List String
  | [] => []
  | e :: es => e.functions ++ Expr.functionsIn es

end

mutual

theorem Expr.mem_functions (expr : Expr) {name : String} {args : List Value}
    (mem : .function name args ∈ expr.applications prefs b) : name ∈ expr.functions := by
  match expr with
  | .literal _ _ | .reference _ _ => cases mem
  | .binary op left right _ =>
    rw [Expr.applications, List.mem_append] at mem
    rw [Expr.functions, List.mem_append]
    rcases mem with mem | mem
    · exact .inl (Expr.mem_functions left mem)
    · split at mem
      · cases mem
      · rcases List.mem_append.mp mem with mem | mem
        · exact .inr (Expr.mem_functions right mem)
        · split at mem <;> simp at mem
  | .call called exprs _ =>
    rw [Expr.applications, List.mem_append] at mem
    rw [Expr.functions, List.mem_cons]
    rcases mem with mem | mem
    · exact .inr (Expr.mem_functionsIn exprs mem)
    · split at mem
      · cases mem
      · cases List.mem_singleton.mp mem
        exact .inl rfl

theorem Expr.mem_functionsIn (exprs : List Expr) {name : String} {args : List Value}
    (mem : .function name args ∈ Expr.applicationsIn prefs b exprs) :
    name ∈ Expr.functionsIn exprs := by
  match exprs with
  | [] => cases mem
  | first :: rest =>
    rw [Expr.applicationsIn, List.mem_append] at mem
    rw [Expr.functionsIn, List.mem_append]
    rcases mem with mem | mem
    · exact .inl (Expr.mem_functions first mem)
    · split at mem
      · cases mem
      · exact .inr (Expr.mem_functionsIn rest mem)

end

theorem Statement.mem_functions {s : Statement} {name : String} {args : List Value}
    (mem : .function name args ∈ s.applications prefs b) : name ∈ s.value.functions := by
  cases s with
  | declare target value _ =>
    rw [applications] at mem
    split at mem
    · cases mem
    · exact value.mem_functions mem
  | assign target value _ =>
    rw [applications] at mem
    split at mem
    · exact value.mem_functions mem
    · cases mem
  | print value _ => exact value.mem_functions mem

mutual

/-- An application that fails ends the evaluation. -/
theorem Expr.evaluate_of_failed (expr : Expr) (mem : a ∈ expr.applications prefs b)
    (failed : a.result prefs b = .error e) : expr.evaluate prefs b = .error e := by
  match expr with
  | .literal _ _ | .reference _ _ => cases mem
  | .binary op left right _ =>
    rw [Expr.applications, List.mem_append] at mem
    rw [Expr.evaluate]
    rcases mem with mem | mem
    · rw [Expr.evaluate_of_failed left mem failed]
    · cases hx : left.evaluate prefs b with
      | error e' => simp [hx] at mem
      | ok x =>
        simp only [hx, List.mem_append] at mem
        rcases mem with mem | mem
        · simp [Expr.evaluate_of_failed right mem failed]
        · cases hy : right.evaluate prefs b with
          | error e' => simp [hy] at mem
          | ok y =>
            simp only [hy, List.mem_singleton] at mem
            subst mem
            exact failed
  | .call name args _ =>
    rw [Expr.applications, List.mem_append] at mem
    rw [Expr.evaluate]
    rcases mem with mem | mem
    · rw [Expr.evaluateAll_of_failed args mem failed]
    · cases hvalues : Expr.evaluateAll prefs b args with
      | error e' => simp [hvalues] at mem
      | ok values =>
        simp only [hvalues, List.mem_singleton] at mem
        subst mem
        exact failed

theorem Expr.evaluateAll_of_failed (exprs : List Expr)
    (mem : a ∈ Expr.applicationsIn prefs b exprs) (failed : a.result prefs b = .error e) :
    Expr.evaluateAll prefs b exprs = .error e := by
  match exprs with
  | [] => cases mem
  | first :: rest =>
    rw [Expr.applicationsIn, List.mem_append] at mem
    rw [Expr.evaluateAll]
    rcases mem with mem | mem
    · rw [Expr.evaluate_of_failed first mem failed]
    · cases hx : first.evaluate prefs b with
      | error e' => simp [hx] at mem
      | ok x =>
        simp only [hx] at mem
        simp [Expr.evaluateAll_of_failed rest mem failed]

end

theorem Statement.execute_of_failed {s : Statement} (mem : a ∈ s.applications prefs b)
    (failed : a.result prefs b = .error e) : s.execute prefs b = .error e := by
  cases s with
  | declare name value _ =>
    rw [applications] at mem
    rw [execute]
    by_cases bound : b.contains name = true
    · simp [bound] at mem
    · simp only [bound] at mem
      simp [bound, value.evaluate_of_failed mem failed]
  | assign name value _ =>
    rw [applications] at mem
    rw [execute]
    by_cases bound : b.contains name = true
    · simp only [bound] at mem
      simp [bound, value.evaluate_of_failed mem failed]
    · simp [bound] at mem
  | print value _ =>
    rw [execute]
    simp [value.evaluate_of_failed mem failed]

end SeriesScript
