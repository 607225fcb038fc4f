import SeriesScript.Evaluation.Evaluate
import SeriesScript.Proofs.Evaluation.BindingList
import SeriesScript.Proofs.Evaluation.ValueErrors
import SeriesScript.Scope

/-!
# Scope errors of statements

While the bound names are the visible ones, a statement that runs through has no scope errors, and
one that breaks a rule of declaration has a scope error for the same name and place. The scope check
looks at references before redeclarations and a run the other way round, so the first scope error
need not be the one that ends a run.
-/
namespace SeriesScript

variable {prefs : Window.Preferences} {b next start : Bindings} {declared visible : List String}
  {e : ScriptError} {v : Value} {output printed : List Value}

/-- The name and the place of a broken rule of declaration. -/
def ScriptError.violation? : ScriptError → Option (String × Span)
  | notDeclared name span => some (name, span)
  | doubleDeclaration name span => some (name, span)
  | _ => none

theorem ScriptError.violation?_of_concernsValues (h : e.concernsValues = true) :
    e.violation? = none := by
  cases e <;> simp_all [concernsValues, violation?]

def Bindings.BindsExactly (b : Bindings) (visible : List String) : Prop :=
  ∀ name, b.contains name = visible.contains name

/-! ## Expressions -/

mutual

theorem Expr.contains_of_evaluate_ok (expr : Expr) {v : Value} (h : expr.evaluate prefs b = .ok v) :
    ∀ r ∈ expr.references, b.contains r.name = true := by
  match expr with
  | .literal _ _ => simp [Expr.references]
  | .reference name span =>
    intro r hr
    rw [Expr.references, List.mem_singleton] at hr
    subst hr
    rw [Expr.evaluate] at h
    split at h
    · rename_i w hw
      exact Bindings.contains_iff.mpr ⟨w, hw⟩
    · cases h
  | .binary op left right _ =>
    rw [Expr.evaluate] at h
    split at h
    · cases h
    · rename_i x hx
      split at h
      · cases h
      · rename_i y hy
        intro r hr
        rw [Expr.references, List.mem_append] at hr
        rcases hr with hr | hr
        · exact Expr.contains_of_evaluate_ok left hx r hr
        · exact Expr.contains_of_evaluate_ok right hy r hr
  | .call function args _ =>
    rw [Expr.evaluate] at h
    split at h
    · cases h
    · rename_i values hvalues
      rw [Expr.references]
      exact Expr.contains_of_evaluateAll_ok args hvalues

theorem Expr.contains_of_evaluateAll_ok (exprs : List Expr) {values : List Value}
    (h : Expr.evaluateAll prefs b exprs = .ok values) :
    ∀ r ∈ Expr.referencesIn exprs, b.contains r.name = true := by
  match exprs with
  | [] => simp [Expr.referencesIn]
  | first :: rest =>
    rw [Expr.evaluateAll] at h
    split at h
    · cases h
    · rename_i x hx
      split at h
      · cases h
      · rename_i xs hxs
        intro r hr
        rw [Expr.referencesIn, List.mem_append] at hr
        rcases hr with hr | hr
        · exact Expr.contains_of_evaluate_ok first hx r hr
        · exact Expr.contains_of_evaluateAll_ok rest hxs r hr

end

def Reference.unbound (b : Bindings) (e : ScriptError) (r : Reference) : Prop :=
  b.contains r.name = false ∧ e = .notDeclared r.name (r.span.getD .unknown)

mutual

/-- An expression fails for its values or for a reference that is not bound. -/
theorem Expr.evaluate_error (expr : Expr) (h : expr.evaluate prefs b = .error e) :
    e.concernsValues = true ∨ ∃ r ∈ expr.references, r.unbound b e := by
  match expr with
  | .literal _ _ => cases h
  | .reference name span =>
    rw [Expr.evaluate] at h
    split at h
    · cases h
    · rename_i hn
      cases h
      refine .inr ⟨⟨name, span⟩, by simp [Expr.references], ?_, rfl⟩
      rw [Bool.eq_false_iff, Ne, Bindings.contains_iff]
      simp [hn]
  | .binary op left right _ =>
    rw [Expr.evaluate] at h
    simp only [Expr.references, List.mem_append]
    split at h
    · rename_i e' hx
      cases h
      rcases Expr.evaluate_error left hx with hc | ⟨r, hr, hu⟩
      · exact .inl hc
      · exact .inr ⟨r, .inl hr, hu⟩
    · rename_i x hx
      split at h
      · rename_i e' hy
        cases h
        rcases Expr.evaluate_error right hy with hc | ⟨r, hr, hu⟩
        · exact .inl hc
        · exact .inr ⟨r, .inr hr, hu⟩
      · rename_i y hy
        exact .inl (Value.apply_failsOnValues op x y e h)
  | .call function args _ =>
    rw [Expr.evaluate] at h
    rw [Expr.references]
    split at h
    · rename_i e' hargs
      cases h
      exact Expr.evaluateAll_error args hargs
    · exact .inl (callFunction_failsOnValues _ _ _ _ e h)

theorem Expr.evaluateAll_error (exprs : List Expr)
    (h : Expr.evaluateAll prefs b exprs = .error e) :
    e.concernsValues = true ∨ ∃ r ∈ Expr.referencesIn exprs, r.unbound b e := by
  match exprs with
  | [] => cases h
  | first :: rest =>
    rw [Expr.evaluateAll] at h
    simp only [Expr.referencesIn, List.mem_append]
    split at h
    · rename_i e' hx
      cases h
      rcases Expr.evaluate_error first hx with hc | ⟨r, hr, hu⟩
      · exact .inl hc
      · exact .inr ⟨r, .inl hr, hu⟩
    · split at h
      · rename_i e' hxs
        cases h
        rcases Expr.evaluateAll_error rest hxs with hc | ⟨r, hr, hu⟩
        · exact .inl hc
        · exact .inr ⟨r, .inr hr, hu⟩
      · cases h

end

theorem Expr.scopeErrors_eq_nil (expr : Expr) (agrees : b.BindsExactly visible)
    (h : ∀ r ∈ expr.references, b.contains r.name = true) :
    expr.scopeErrors declared visible = [] := by
  rw [Expr.scopeErrors, List.filterMap_eq_nil_iff]
  intro r hr
  rw [Reference.scopeError?, if_pos (by rw [← agrees, h r hr])]

theorem Expr.mem_scopeErrors_of_unbound (declared : List String) {expr : Expr} {r : Reference}
    (agrees : b.BindsExactly visible) (hr : r ∈ expr.references) (hu : r.unbound b e) :
    ∃ err ∈ expr.scopeErrors declared visible, e.violation? = some (err.name, err.span) := by
  obtain ⟨hc, rfl⟩ := hu
  have hs : r.scopeError? declared visible =
      some ⟨if declared.contains r.name then .usedBeforeDeclaration else .unknownVariable, r.name,
        r.span.getD .unknown⟩ := if_neg (by rw [← agrees, hc]; simp)
  exact ⟨_, List.mem_filterMap.mpr ⟨r, hr, hs⟩, rfl⟩

/-- An expression that breaks a rule of declaration has a scope error that says so. -/
theorem Expr.mem_scopeErrors_of_error (declared : List String) {expr : Expr}
    (agrees : b.BindsExactly visible) (h : expr.evaluate prefs b = .error e) :
    e.concernsValues = true ∨
      ∃ err ∈ expr.scopeErrors declared visible, e.violation? = some (err.name, err.span) := by
  rcases expr.evaluate_error h with hv | ⟨r, hr, hu⟩
  · exact .inl hv
  · exact .inr (mem_scopeErrors_of_unbound declared agrees hr hu)

/-! ## Statements -/

theorem Bindings.BindsExactly.declare (agrees : b.BindsExactly visible) {name : String}
    (h : b.declare? name v = some next) : next.BindsExactly (name :: visible) := by
  intro other
  rw [Bool.eq_iff_iff, Bindings.contains_of_declare? h, agrees]
  simp

theorem Bindings.BindsExactly.assign (agrees : b.BindsExactly visible) {name : String}
    (h : b.assign? name v = some next) : next.BindsExactly visible := fun other => by
  rw [Bindings.contains_of_assign? h, agrees]

/-- A statement that runs through has no scope errors, and it binds what it makes visible. -/
theorem Statement.execute_ok (declared : List String) {s : Statement}
    (agrees : b.BindsExactly visible) (h : s.execute prefs b = .ok (next, output)) :
    s.scopeErrors declared visible = [] ∧ next.BindsExactly (s.visibleAfter visible) := by
  cases s with
  | declare name value span =>
    rw [execute] at h
    split at h
    · cases h
    · rename_i hc
      split at h
      · cases h
      · rename_i v hv
        split at h
        · rename_i after ha
          cases h
          refine ⟨?_, agrees.declare ha⟩
          rw [scopeErrors, value.scopeErrors_eq_nil agrees (value.contains_of_evaluate_ok hv),
            if_neg (by rwa [← agrees]), List.append_nil]
        · cases h
  | assign name value span =>
    rw [execute] at h
    split at h
    · rename_i hc
      split at h
      · cases h
      · rename_i v hv
        split at h
        · rename_i after ha
          cases h
          refine ⟨?_, agrees.assign ha⟩
          rw [scopeErrors, value.scopeErrors_eq_nil agrees (value.contains_of_evaluate_ok hv),
            if_pos (by rwa [← agrees]), List.append_nil]
        · cases h
    · cases h
  | print value span =>
    rw [execute] at h
    split at h
    · cases h
    · rename_i v hv
      cases h
      exact ⟨value.scopeErrors_eq_nil agrees (value.contains_of_evaluate_ok hv), agrees⟩

/-- A statement that breaks a rule of declaration has a scope error for the same name and place. -/
theorem Statement.execute_error (declared : List String) {s : Statement}
    (agrees : b.BindsExactly visible) (h : s.execute prefs b = .error e) :
    e.concernsValues = true ∨
      ∃ err ∈ s.scopeErrors declared visible, e.violation? = some (err.name, err.span) := by
  cases s with
  | declare name value span =>
    rw [execute] at h
    simp only [scopeErrors, List.mem_append]
    split at h
    · rename_i hc
      cases h
      rw [agrees] at hc
      exact .inr ⟨_, .inr (by rw [if_pos hc]; exact List.mem_singleton_self _), rfl⟩
    · rename_i hc
      split at h
      · rename_i e' he
        cases h
        rcases Expr.mem_scopeErrors_of_error declared agrees he with hv | ⟨err, hm, herr⟩
        · exact .inl hv
        · exact .inr ⟨err, .inl hm, herr⟩
      · rename_i v hv
        obtain ⟨after, ha, -⟩ := Bindings.declare?_of_not_contains (Bool.eq_false_iff.mpr hc) v
        rw [ha] at h
        cases h
  | assign name value span =>
    rw [execute] at h
    simp only [scopeErrors, List.mem_append]
    split at h
    · rename_i hc
      split at h
      · rename_i e' he
        cases h
        rcases Expr.mem_scopeErrors_of_error declared agrees he with hv | ⟨err, hm, herr⟩
        · exact .inl hv
        · exact .inr ⟨err, .inr hm, herr⟩
      · rename_i v hv
        obtain ⟨after, _, ha, -⟩ := Bindings.assign?_of_contains hc v
        rw [ha] at h
        cases h
    · rename_i hc
      cases h
      rw [agrees] at hc
      exact .inr ⟨_, .inl (by rw [if_neg hc]; exact List.mem_singleton_self _), rfl⟩
  | print value span =>
    rw [execute] at h
    rw [scopeErrors]
    split at h
    · rename_i e' he
      cases h
      exact Expr.mem_scopeErrors_of_error declared agrees he
    · cases h

end SeriesScript
