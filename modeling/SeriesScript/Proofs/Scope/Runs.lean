import Mathlib.Data.Nat.Find
import Mathlib.Tactic.Push
import SeriesScript.Proofs.Evaluation.Progress
import SeriesScript.Proofs.Scope.Statements

/-!
# Scope errors and runs

The names that are visible to the scope check before a statement are the names that are bound when
a run arrives there. So a run passes no statement with scope errors, and when it breaks a rule of
declaration, it does so at the first statement with scope errors, by a name and at a place that are
among them.
-/
namespace SeriesScript

variable {prefs : Window.Preferences} {b start : Bindings} {declared : List String}
  {e : ScriptError} {printed : List Value}

def PointStream.Readable (s : PointStream) : Prop :=
  s.disposed = false ∧ ∃ points, s.content = .ok points

namespace Program

def visibleBefore (given : List String) (program : List Statement) (k : Nat) : List String :=
  (program.take k).foldl Statement.visibleAfter given

def scopeErrorsOf (declared given : List String) (program : List Statement) (k : Nat) :
    List ScopeError :=
  match program[k]? with
  | some s => s.scopeErrors declared (visibleBefore given program k)
  | none => []

theorem scopeErrorsFrom_eq_flatMap (declared visible : List String) (program : List Statement) :
    scopeErrorsFrom declared visible program =
      (List.range program.length).flatMap (scopeErrorsOf declared visible program) := by
  induction program generalizing visible with
  | nil => rfl
  | cons s rest ih =>
    rw [List.length_cons, List.range_succ_eq_map, List.flatMap_cons, List.flatMap_map,
      scopeErrorsFrom, ih]
    rfl

theorem scopeErrors_eq_flatMap (given : List String) (program : Program) :
    program.scopeErrors given =
      (List.range program.length).flatMap (scopeErrorsOf program.declaredNames given program) :=
  scopeErrorsFrom_eq_flatMap _ _ _

end Program

namespace Program

variable {program : List Statement} {given : List String} {k : Nat}

theorem visibleBefore_succ {s : Statement} (at_k : program[k]? = some s) :
    visibleBefore given program (k + 1) = s.visibleAfter (visibleBefore given program k) := by
  rw [visibleBefore, List.take_add_one, at_k, List.foldl_append]
  rfl

/-- Where a run arrives, the bound names are the visible ones, and it has passed no scope error. -/
theorem Reaches.scoped (declared : List String) (agrees : start.BindsExactly given)
    (h : Reaches prefs start program k b printed) :
    b.BindsExactly (visibleBefore given program k) ∧
      ∀ j < k, scopeErrorsOf declared given program j = [] := by
  induction h with
  | start => exact ⟨agrees, fun j hj => absurd hj (Nat.not_lt_zero j)⟩
  | step _ at_k ran ih =>
    obtain ⟨here, passed⟩ := ih
    obtain ⟨clean, after⟩ := Statement.execute_ok declared here ran
    refine ⟨visibleBefore_succ at_k ▸ after, fun j hj => ?_⟩
    rcases Nat.lt_succ_iff_lt_or_eq.mp hj with hj | rfl
    · exact passed j hj
    · rw [scopeErrorsOf, at_k]
      exact clean

/-- A broken rule of declaration is among the scope errors of the statement that breaks it. -/
theorem RaisesAt.mem_scopeErrorsOf (declared : List String) (agrees : start.BindsExactly given)
    (h : RaisesAt prefs start program k printed e) :
    e.concernsValues = true ∨
      ∃ err ∈ scopeErrorsOf declared given program k, e.violation? = some (err.name, err.span) := by
  obtain ⟨b, s, reached, at_k, raised⟩ := h
  rw [scopeErrorsOf, at_k]
  exact Statement.execute_error declared (reached.scoped declared agrees).1 raised

def FirstFaulty (declared given : List String) (program : List Statement) (k : Nat) : Prop :=
  scopeErrorsOf declared given program k ≠ [] ∧
    ∀ j < k, scopeErrorsOf declared given program j = []

theorem exists_firstFaulty {program : Program} (h : program.scopeErrors given ≠ []) :
    ∃ k, FirstFaulty program.declaredNames given program k := by
  have faulty : ∃ k, scopeErrorsOf program.declaredNames given program k ≠ [] := by
    by_contra none
    push Not at none
    exact h (by rw [scopeErrors_eq_flatMap, List.flatMap_eq_nil_iff]; exact fun k _ => none k)
  classical
  exact ⟨Nat.find faulty, Nat.find_spec faulty, fun j hj => not_not.mp (Nat.find_min faulty hj)⟩

/-- A run arrives at most at the first statement with scope errors. -/
theorem FirstFaulty.reaches_le (faulty : FirstFaulty declared given program k)
    (agrees : start.BindsExactly given) {i : Nat} (h : Reaches prefs start program i b printed) :
    i ≤ k := by
  by_contra beyond
  exact faulty.1 ((h.scoped declared agrees).2 k (by omega))

theorem FirstFaulty.lt_length (faulty : FirstFaulty declared given program k) :
    k < program.length := by
  by_contra beyond
  apply faulty.1
  rw [scopeErrorsOf, List.getElem?_eq_none (by omega)]

theorem FirstFaulty.execute_ne_ok (faulty : FirstFaulty declared given program k)
    (agrees : start.BindsExactly given) (b : Bindings) :
    (execute prefs start program).result ≠ .ok b := by
  intro h
  have arrived : Reaches prefs start program program.length b (execute prefs start program).printed :=
    reaches_of_execute_ok (by rw [← h])
  have := faulty.reaches_le agrees arrived
  have := faulty.lt_length
  omega

/-- A run breaks a rule of declaration only at the first statement with scope errors. -/
theorem FirstFaulty.raisesAt (faulty : FirstFaulty declared given program k)
    (agrees : start.BindsExactly given) {name : String} {span : Span}
    (h : (execute prefs start program).result = .error e) (violated : e.violation? = some (name, span)) :
    RaisesAt prefs start program k (execute prefs start program).printed e ∧
      ∃ err ∈ scopeErrorsOf declared given program k, err.name = name ∧ err.span = span := by
  obtain ⟨i, raised⟩ := raisesAt_of_result_error h
  rcases raised.mem_scopeErrorsOf declared agrees with hv | ⟨err, hm, herr⟩
  · rw [ScriptError.violation?_of_concernsValues hv] at violated
    cases violated
  · have hk : i = k := by
      obtain ⟨_, _, reached, -⟩ := raised
      have := faulty.reaches_le agrees reached
      by_contra ne
      rw [faulty.2 i (by omega)] at hm
      cases hm
    subst hk
    rw [herr, Option.some.injEq, Prod.mk.injEq] at violated
    exact ⟨raised, err, hm, violated.1, violated.2⟩

/-- Without scope errors a run fails, if it does, for its values only. -/
theorem concernsValues_of_scopeErrors_eq_nil {program : Program}
    (clean : program.scopeErrors given = []) (agrees : start.BindsExactly given)
    (h : (execute prefs start program).result = .error e) : e.concernsValues = true := by
  obtain ⟨i, raised⟩ := raisesAt_of_result_error h
  rcases raised.mem_scopeErrorsOf program.declaredNames agrees with hv | ⟨err, hm, -⟩
  · exact hv
  · rw [scopeErrors_eq_flatMap, List.flatMap_eq_nil_iff] at clean
    obtain ⟨_, _, reached, at_i, -⟩ := raised
    rw [clean i (List.mem_range.mpr (List.getElem?_eq_some_iff.mp at_i).1)] at hm
    cases hm

theorem violation?_eq_none {program : Program} (clean : program.scopeErrors given = [])
    (agrees : start.BindsExactly given) (h : (execute prefs start program).result = .error e) :
    e.violation? = none :=
  ScriptError.violation?_of_concernsValues (concernsValues_of_scopeErrors_eq_nil clean agrees h)

end Program

theorem PointStream.Readable.series_eq {s : PointStream} (h : s.Readable) (name : String) :
    ∃ points, s.content = .ok points ∧ s.series name = .ok ⟨arrange s.order points, s.kind⟩ := by
  obtain ⟨live, points, content⟩ := h
  exact ⟨points, content, by simp [series, live, content]⟩

theorem Bindings.contains_declare?_getD (b : Bindings) (name other : String) (v : Value) :
    ((b.declare? name v).getD b).contains other = (other == name || b.contains other) := by
  cases hc : b.contains name with
  | true =>
    rw [Bindings.declare?_of_contains hc, Option.getD_none]
    by_cases h : other = name <;> simp [h, hc]
  | false =>
    obtain ⟨after, ha, -⟩ := Bindings.declare?_of_not_contains hc v
    rw [ha, Option.getD_some, Bool.eq_iff_iff, Bindings.contains_of_declare? ha]
    simp

theorem Store.bindAll_of_readable {streams : List (String × PointStream)}
    (readable : ∀ entry ∈ streams, entry.2.Readable) (b : Bindings) :
    ∃ after, bindAll streams b = .ok after ∧
      ∀ name, after.contains name = (b.contains name || (streams.map Prod.fst).contains name) := by
  induction streams generalizing b with
  | nil => exact ⟨b, rfl, by simp⟩
  | cons entry rest ih =>
    obtain ⟨name, s⟩ := entry
    obtain ⟨points, -, hs⟩ := (readable (name, s) List.mem_cons_self).series_eq name
    obtain ⟨after, ha, hn⟩ := ih (fun entry h => readable entry (List.mem_cons_of_mem _ h))
      ((b.declare? name (.series ⟨PointStream.arrange s.order points, s.kind⟩)).getD b)
    refine ⟨after, by rw [bindAll, hs]; exact ha, fun other => ?_⟩
    rw [hn, Bindings.contains_declare?_getD, List.map_cons, List.contains_cons]
    cases other == name <;> cases b.contains other <;> simp

theorem Store.bindings_of_readable {store : Store}
    (readable : ∀ entry ∈ store.streams, entry.2.Readable) :
    ∃ start, store.bindings = .ok start ∧ start.BindsExactly store.names := by
  obtain ⟨start, hs, hn⟩ := bindAll_of_readable readable Bindings.empty
  refine ⟨start, hs, fun name => ?_⟩
  rw [hn]
  simp [Bindings.contains, Bindings.position?, Bindings.empty, Store.names]

/-- The scope check decides how a run over readable streams keeps the rules of declaration. Without
scope errors it breaks none. Otherwise it never gets beyond the first statement with scope errors,
and if it breaks a rule, then there, and one of the reported errors of that statement has the name
and the place. So a run succeeds without the check exactly where it succeeds with it. -/
theorem Program.scopeErrors_predict_evaluation (prefs : Window.Preferences) (store : Store)
    (program : Program) (readable : ∀ entry ∈ store.streams, entry.2.Readable) :
    let reported := scopeErrorsOf program.declaredNames store.names program
    let outcome := program.evaluate prefs store
    program.scopeErrors store.names = (List.range program.length).flatMap reported ∧
    (program.scopeErrors store.names = [] →
      ∀ e, outcome.result = .error e → e.violation? = none) ∧
    (program.scopeErrors store.names ≠ [] →
      ∃ k, FirstFaulty program.declaredNames store.names program k) ∧
    (∀ k, FirstFaulty program.declaredNames store.names program k →
      ∃ start, store.bindings = .ok start ∧
        (∀ b, outcome.result ≠ .ok b) ∧
        (∀ i b printed, Reaches prefs start program i b printed → i ≤ k) ∧
        ∀ e name span, outcome.result = .error e → e.violation? = some (name, span) →
          RaisesAt prefs start program k outcome.printed e ∧
            ∃ err ∈ reported k, err.name = name ∧ err.span = span) ∧
    ∀ b, (program.run prefs store).result = .ok b ↔ outcome.result = .ok b := by
  intro reported outcome
  obtain ⟨start, seeded, agrees⟩ := Store.bindings_of_readable readable
  have ran : outcome = execute prefs start program := by
    simp only [outcome, evaluate, seeded]
  refine ⟨scopeErrors_eq_flatMap _ _, fun clean e h => ?_, exists_firstFaulty, ?_, fun b => ?_⟩
  · exact violation?_eq_none clean agrees (ran ▸ h)
  · intro k faulty
    rw [ran]
    exact ⟨start, seeded, faulty.execute_ne_ok agrees, fun i b printed => faulty.reaches_le agrees,
      fun e name span => faulty.raisesAt agrees⟩
  · rw [run]
    split
    · exact Iff.rfl
    · rename_i errors
      constructor
      · intro h
        cases h
      · intro h
        obtain ⟨k, faulty⟩ := exists_firstFaulty errors
        exact absurd (ran ▸ h) (faulty.execute_ne_ok agrees b)

def Program.hasty : Program :=
  [.print (.reference "load" none) none,
   .declare "load" (.binary .add (.reference "late" none) (.reference "lost" none) none) none,
   .declare "late" (.literal (.integer 1) none) none]

theorem Program.scopeErrors_predict_hasty :
    let store : Store := ⟨[("load", .ofPoints .numerical .newestFirst [])]⟩
    (∀ entry ∈ store.streams, entry.2.Readable) ∧
    FirstFaulty hasty.declaredNames store.names hasty 1 ∧
    ∃ start, store.bindings = .ok start ∧
      ∀ i b printed, Reaches .default start hasty i b printed → i ≤ 1 := by
  intro store
  have readable : ∀ entry ∈ store.streams, entry.2.Readable := by
    simp [store, PointStream.Readable, PointStream.ofPoints]
  have faulty : FirstFaulty hasty.declaredNames store.names hasty 1 := ⟨by decide, by decide⟩
  obtain ⟨-, -, -, first, -⟩ := scopeErrors_predict_evaluation .default store hasty readable
  obtain ⟨start, seeded, -, stops, -⟩ := first 1 faulty
  exact ⟨readable, faulty, start, seeded, stops⟩

end SeriesScript
