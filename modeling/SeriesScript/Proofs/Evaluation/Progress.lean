import SeriesScript.Evaluation.Evaluate

/-!
# The progress of a run

A run arrives at a statement once all statements before it have run through. The outcome of a run
says how far it came: to the end of the program, or to the statement that raised its error.
-/
namespace SeriesScript

@[simp] theorem Outcome.after_nil (o : Outcome) : o.after [] = o := rfl

@[simp] theorem Outcome.after_after (o : Outcome) (p q : List Value) :
    (o.after q).after p = o.after (p ++ q) := by
  simp [after]

namespace Program

variable {prefs : Window.Preferences} {start next b : Bindings} {program rest : List Statement}
  {s : Statement} {k : Nat} {output printed : List Value} {e : ScriptError}

/-- The run from `start` arrives at statement `k` with the bindings `b`: the statements before it
ran through, and printed `printed` together. -/
inductive Reaches (prefs : Window.Preferences) (start : Bindings) (program : List Statement) :
    Nat → Bindings → List Value → Prop
  | start : Reaches prefs start program 0 start []
  | step {k : Nat} {b next : Bindings} {printed output : List Value} {s : Statement}
      (before : Reaches prefs start program k b printed) (at_k : program[k]? = some s)
      (ran : s.execute prefs b = .ok (next, output)) :
      Reaches prefs start program (k + 1) next (printed ++ output)

def RaisesAt (prefs : Window.Preferences) (start : Bindings) (program : List Statement) (k : Nat)
    (printed : List Value) (e : ScriptError) : Prop :=
  ∃ b s, Reaches prefs start program k b printed ∧ program[k]? = some s ∧
    s.execute prefs b = .error e

theorem Reaches.cons (ran : s.execute prefs start = .ok (next, output))
    (h : Reaches prefs next rest k b printed) :
    Reaches prefs start (s :: rest) (k + 1) b (output ++ printed) := by
  induction h with
  | start =>
    rw [List.append_nil]
    exact .step .start rfl ran
  | step _ at_k later ih =>
    rw [← List.append_assoc]
    exact .step ih at_k later

/-- From where a run has arrived it goes on like a run of the remaining statements. -/
theorem Reaches.execute_eq (h : Reaches prefs start program k b printed) :
    execute prefs start program = (execute prefs b (program.drop k)).after printed := by
  induction h with
  | start => simp
  | step _ at_k ran ih =>
    obtain ⟨hk, rfl⟩ := List.getElem?_eq_some_iff.mp at_k
    rw [ih, List.drop_eq_getElem_cons hk, execute, ran]
    simp

theorem reaches_of_execute_ok (h : execute prefs start program = ⟨printed, .ok b⟩) :
    Reaches prefs start program program.length b printed := by
  induction program generalizing start printed with
  | nil =>
    cases h
    exact .start
  | cons s rest ih =>
    rw [execute] at h
    split at h
    · cases h
    · rename_i next output ran
      generalize ho : execute prefs next rest = o at h
      obtain ⟨tail, result⟩ := o
      cases h
      exact (ih ho).cons ran

theorem raisesAt_of_execute_error (h : execute prefs start program = ⟨printed, .error e⟩) :
    ∃ k, RaisesAt prefs start program k printed e := by
  induction program generalizing start printed with
  | nil => cases h
  | cons s rest ih =>
    rw [execute] at h
    split at h
    · rename_i raised
      cases h
      exact ⟨0, start, s, .start, rfl, raised⟩
    · rename_i next output ran
      generalize ho : execute prefs next rest = o at h
      obtain ⟨tail, result⟩ := o
      cases h
      obtain ⟨k, b, t, reached, at_k, raised⟩ := ih ho
      exact ⟨k + 1, b, t, reached.cons ran, at_k, raised⟩

theorem raisesAt_of_result_error (h : (execute prefs start program).result = .error e) :
    ∃ k, RaisesAt prefs start program k (execute prefs start program).printed e := by
  apply raisesAt_of_execute_error
  rw [← h]

theorem execute_eq_error_iff :
    execute prefs start program = ⟨printed, .error e⟩ ↔
      ∃ k, RaisesAt prefs start program k printed e := by
  refine ⟨raisesAt_of_execute_error, ?_⟩
  rintro ⟨k, b, s, reached, at_k, raised⟩
  obtain ⟨hk, rfl⟩ := List.getElem?_eq_some_iff.mp at_k
  rw [reached.execute_eq, List.drop_eq_getElem_cons hk, execute, raised]
  simp [Outcome.failed, Outcome.after]

end Program

end SeriesScript
