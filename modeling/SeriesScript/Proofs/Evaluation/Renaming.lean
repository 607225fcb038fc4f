import Mathlib.Logic.Equiv.Basic
import SeriesScript.Proofs.Evaluation.InStep

/-!
# Names are only names

Under an injective renaming the scope check reports the same errors, and a run prints the same and
ends the same, all under the new names. So neither depends on how names are spelled or ordered, and
no variable is taken for a function.
-/
namespace SeriesScript

variable {f : String → String}

/-! ## The scope check -/

section ScopeCheck

variable (injective : Function.Injective f) (declared visible : List String)

include injective

theorem contains_map (names : List String) (name : String) :
    (names.map f).contains (f name) = names.contains name := by
  simp [injective.eq_iff]

theorem Reference.scopeError?_rename (r : Reference) :
    (r.rename f).scopeError? (declared.map f) (visible.map f) =
      (r.scopeError? declared visible).map (ScopeError.rename f) := by
  simp only [scopeError?, rename, contains_map injective]
  split <;> rfl

theorem Expr.scopeErrors_rename (e : Expr) :
    (e.rename f).scopeErrors (declared.map f) (visible.map f) =
      (e.scopeErrors declared visible).map (ScopeError.rename f) := by
  rw [scopeErrors, scopeErrors, references_rename, List.filterMap_map, List.map_filterMap]
  congr 1
  funext r
  exact Reference.scopeError?_rename injective declared visible r

theorem Statement.scopeErrors_rename (s : Statement) :
    (s.rename f).scopeErrors (declared.map f) (visible.map f) =
      (s.scopeErrors declared visible).map (ScopeError.rename f) := by
  cases s with
  | declare name value span =>
    simp only [rename, scopeErrors, Expr.scopeErrors_rename injective, contains_map injective,
      List.map_append]
    congr 1
    split <;> rfl
  | assign name value span =>
    simp only [rename, scopeErrors, Expr.scopeErrors_rename injective, contains_map injective,
      List.map_append]
    congr 1
    split <;> rfl
  | print value span => exact Expr.scopeErrors_rename injective declared visible value

omit injective in
theorem Statement.visibleAfter_rename (s : Statement) :
    (s.rename f).visibleAfter (visible.map f) = (s.visibleAfter visible).map f := by
  cases s <;> rfl

omit injective in
theorem Program.declaredNames_rename (program : List Statement) :
    declaredNames (rename f program) = (declaredNames program).map f := by
  rw [declaredNames, declaredNames, rename, List.filterMap_map, List.map_filterMap]
  congr 1
  funext s
  cases s <;> rfl

theorem Program.scopeErrorsFrom_rename (program : List Statement) :
    scopeErrorsFrom (declared.map f) (visible.map f) (rename f program) =
      (scopeErrorsFrom declared visible program).map (ScopeError.rename f) := by
  induction program generalizing visible with
  | nil => rfl
  | cons s rest ih =>
    rw [scopeErrorsFrom, List.map_append, ← Statement.scopeErrors_rename injective, ← ih,
      ← Statement.visibleAfter_rename]
    rfl

end ScopeCheck

/-! ## Runs -/

theorem PointStream.series_rename (s : PointStream) (name : String) :
    Matched (fun e e' => e' = e.rename f) Eq (s.series name) ((s.rename f).series (f name)) := by
  obtain ⟨kind, order, content, disposable, disposed, reads⟩ := s
  cases disposed with
  | true => exact .error rfl
  | false =>
    cases content with
    | ok points => exact .ok rfl
    | error e => cases e <;> exact .error rfl

def Correspondence.renamed (injective : Function.Injective f) : Correspondence :=
  .sameValues (fun _ => true) f injective.injOn

theorem Correspondence.renamed_bindings_iff {injective : Function.Injective f} {b b' : Bindings} :
    (renamed injective).bindings b b' ↔ b'.toList = b.toList.map (Prod.map f id) := by
  rw [renamed, sameValues_bindings_iff, List.filter_true]

theorem Store.bindings_rename (injective : Function.Injective f) (store : Store) :
    (Correspondence.renamed injective).Matches (Correspondence.renamed injective).bindings
      store.bindings (store.rename f).bindings := by
  have empty : (Correspondence.renamed injective).bindings .empty .empty := List.Forall₂.nil
  refine Correspondence.bindAll empty ?_
  rw [rename, List.forall₂_map_right_iff, List.forall₂_same]
  rintro ⟨name, s⟩ -
  exact ⟨rfl, rfl, (s.series_rename name).imp (fun _ _ h => h) fun _ _ h => congrArg Value.series h⟩

theorem Bindings.earliest?_of_map {b b' : Bindings} (h : b'.toList = b.toList.map (Prod.map f id)) :
    b'.earliest? = b.earliest? := by
  rw [earliest?, earliest?, h, List.filterMap_map]
  rfl

/-- Under new names for all streams and variables the scope check reports the same errors, and a run
prints the same values and ends with the same values bound in the same order, or with the same
error, where each name is the new one. -/
theorem Program.evaluate_rename (prefs : Window.Preferences) (store : Store)
    (program : List Statement) (f : String → String) (injective : Function.Injective f) :
    let o := evaluate prefs store program
    let o' := evaluate prefs (store.rename f) (rename f program)
    scopeErrors (store.rename f).names (rename f program) =
        (scopeErrors store.names program).map (ScopeError.rename f) ∧
      o'.printed = o.printed ∧
      Matched (fun e e' => e' = e.rename f)
        (fun b b' => b'.toList = b.toList.map (Prod.map f id)) o.result o'.result := by
  intro o o'
  have outcomes : (Correspondence.renamed injective).Outcomes o o' := by
    refine Correspondence.evaluation prefs program (store.bindings_rename injective)
      (fun _ _ _ _ => rfl) ?_
    intro _ _ _ _ _ c c' _ _ _ _ _ bound _
    apply Correspondence.callsMatch_sameValues
    intro name args _
    rw [Bindings.earliest?_of_map (Correspondence.renamed_bindings_iff.mp bound)]
  refine ⟨?_, outcomes.printed_eq, outcomes.result.imp (fun _ _ h => h) fun b b' h => ?_⟩
  · rw [scopeErrors, scopeErrors, Store.names_rename, declaredNames_rename]
    exact scopeErrorsFrom_rename injective _ _ program
  · exact Correspondence.renamed_bindings_iff.mp h

/-- A stream and a lost name trade places, while a variable has the name of a function. -/
theorem Program.evaluate_rename_swap :
    let f : String → String := Equiv.swap "load" "late"
    let store : Store := ⟨[("load", .ofPoints .numerical .oldestFirst [])]⟩
    let program : List Statement :=
      [.declare "Bin" (.call "Delta" [.reference "load" none] none) none,
       .print (.reference "late" none) none]
    Function.Injective f ∧
      scopeErrors (store.rename f).names (rename f program) =
        [⟨.unknownVariable, "load", .unknown⟩] ∧
      (evaluate .default (store.rename f) (rename f program)).result =
        .error (.notDeclared "load" .unknown) := by
  intro f store program
  have injective : Function.Injective f := (Equiv.swap "load" "late").injective
  obtain ⟨scope, -, result⟩ := evaluate_rename .default store program f injective
  have lost : scopeErrors store.names program = [⟨.unknownVariable, "late", .unknown⟩] := by decide
  have ran : (evaluate .default store program).result = .error (.notDeclared "late" .unknown) := rfl
  rw [lost] at scope
  rw [ran] at result
  generalize (evaluate .default (store.rename f) (rename f program)).result = r at result
  cases result with
  | error renamed => exact ⟨injective, scope, by rw [renamed]; rfl⟩

end SeriesScript
