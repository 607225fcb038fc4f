import SeriesScript.Proofs.Evaluation.BindingList
import SeriesScript.Proofs.Evaluation.Progress

/-!
# The values of a run

A run handles the values that are bound while it lasts, those that operators and functions are
applied to, those that they give, and those that are printed. A property that literals have and
that operators and functions keep holds of all of them, if it holds of the bindings at the start.
-/
namespace SeriesScript

inductive Application where
  | operator (op : BinaryOp) (left right : Value)
  | function (name : String) (args : List Value)

namespace Application

def operands : Application → List Value
  | operator _ left right => [left, right]
  | function _ args => args

def result (prefs : Window.Preferences) (b : Bindings) : Application → Except ScriptError Value
  | operator op left right => left.apply op right
  | function name args => callFunction prefs b.earliest? name args

end Application

mutual

/-- What is applied to values while an expression is evaluated, in order, up to an error. -/
def Expr.applications (prefs : Window.Preferences) (b : Bindings) : Expr → List Application
  | .literal _ _ => []
  | .reference _ _ => []
  | .binary op left right _ =>
    left.applications prefs b ++
      match left.evaluate prefs b with
      | .error _ => []
      | .ok x =>
        right.applications prefs b ++
          match right.evaluate prefs b with
          | .error _ => []
          | .ok y => [.operator op x y]
  | .call name args _ =>
    Expr.applicationsIn prefs b args ++
      match Expr.evaluateAll prefs b args with
      | .error _ => []
      | .ok values => [.function name values]

def Expr.applicationsIn (prefs : Window.Preferences) (b : Bindings) : List Expr → List Application
  | [] => []
  | e :: rest =>
    e.applications prefs b ++
      match e.evaluate prefs b with
      | .error _ => []
      | .ok _ => Expr.applicationsIn prefs b rest

end

def Statement.applications (prefs : Window.Preferences) (b : Bindings) : Statement → List Application
  | declare name value _ => if b.contains name then [] else value.applications prefs b
  | assign name value _ => if b.contains name then value.applications prefs b else []
  | print value _ => value.applications prefs b

/-- The values that a run handles, whether it succeeds in the end or not. -/
inductive Program.Handles (prefs : Window.Preferences) (start : Bindings)
    (program : List Statement) : Value → Prop
  | bound {k : Nat} {b : Bindings} {printed : List Value} {name : String} {v : Value}
      (reached : Reaches prefs start program k b printed) (mem : (name, v) ∈ b.toList) :
      Handles prefs start program v
  | printed {k : Nat} {b : Bindings} {printed : List Value} {v : Value}
      (reached : Reaches prefs start program k b printed) (mem : v ∈ printed) :
      Handles prefs start program v
  | operand {k : Nat} {b : Bindings} {printed : List Value} {s : Statement} {a : Application}
      {v : Value} (reached : Reaches prefs start program k b printed) (at_k : program[k]? = some s)
      (applied : a ∈ s.applications prefs b) (mem : v ∈ a.operands) : Handles prefs start program v
  | result {k : Nat} {b : Bindings} {printed : List Value} {s : Statement} {a : Application}
      {v : Value} (reached : Reaches prefs start program k b printed) (at_k : program[k]? = some s)
      (applied : a ∈ s.applications prefs b) (given : a.result prefs b = .ok v) :
      Handles prefs start program v

theorem Program.handles_of_mem_printed {prefs : Window.Preferences} {start : Bindings}
    {program : List Statement} {v : Value} (mem : v ∈ (execute prefs start program).printed) :
    Handles prefs start program v := by
  cases run : execute prefs start program with
  | mk printed result =>
    rw [run] at mem
    cases result with
    | ok b => exact .printed (reaches_of_execute_ok run) mem
    | error e =>
      obtain ⟨k, b, s, reached, -⟩ := raisesAt_of_execute_error run
      exact .printed reached mem

/-- A property of values that literals have and that operators and functions keep. -/
structure Value.Invariant (prefs : Window.Preferences) (P : Value → Prop) : Prop where
  literal : ∀ l : Literal, P l.evaluate
  operator : ∀ op x y v, P x → P y → x.apply op y = .ok v → P v
  function : ∀ hardStart name args v, (∀ x ∈ args, P x) →
    callFunction prefs hardStart name args = .ok v → P v

def Bindings.All (b : Bindings) (P : Value → Prop) : Prop := ∀ name v, (name, v) ∈ b.toList → P v

variable {prefs : Window.Preferences} {P : Value → Prop} {b next start : Bindings}
  {program : List Statement} {k : Nat} {printed output : List Value}

theorem Bindings.All.declare {name : String} {v : Value} (all : b.All P) (hv : P v)
    (h : b.declare? name v = some next) : next.All P := by
  intro other w mem
  rw [toList_of_declare? h, List.mem_append, List.mem_singleton] at mem
  rcases mem with mem | mem
  · exact all other w mem
  · cases mem
    exact hv

theorem Bindings.All.assign {name : String} {v : Value} (all : b.All P) (hv : P v)
    (h : b.assign? name v = some next) : next.All P := by
  intro other w mem
  obtain ⟨i, -, hl⟩ := toList_of_assign? h
  rw [hl] at mem
  rcases List.mem_or_eq_of_mem_set mem with mem | mem
  · exact all other w mem
  · cases mem
    exact hv

/-- An application keeps a property: if all its operands have it, so does its result. -/
def Application.Keeps (prefs : Window.Preferences) (b : Bindings) (P : Value → Prop)
    (a : Application) : Prop :=
  (∀ x ∈ a.operands, P x) → ∀ v, a.result prefs b = .ok v → P v

mutual

/-- If all applications keep the property, then the value of an expression has it, and so has
everything that is operated on for that value. -/
theorem Expr.kept (literal : ∀ l : Literal, P l.evaluate) (all : b.All P) (e : Expr)
    (keep : ∀ a ∈ e.applications prefs b, a.Keeps prefs b P) :
    (∀ v, e.evaluate prefs b = .ok v → P v) ∧
      ∀ a ∈ e.applications prefs b, ∀ x ∈ a.operands, P x := by
  match e with
  | .literal l _ =>
    refine ⟨fun v h => ?_, by simp [Expr.applications]⟩
    cases h
    exact literal l
  | .reference name _ =>
    refine ⟨fun v h => ?_, by simp [Expr.applications]⟩
    rw [Expr.evaluate] at h
    split at h
    · rename_i w hw
      cases h
      exact all name v (Bindings.get?_eq_some_iff.mp hw)
    · cases h
  | .binary op left right _ =>
    simp only [Expr.applications, List.forall_mem_append] at keep ⊢
    obtain ⟨left_value, left_operands⟩ := Expr.kept literal all left keep.1
    simp only [Expr.evaluate]
    cases hx : left.evaluate prefs b with
    | error _ => simpa using left_operands
    | ok x =>
      simp only [hx, List.forall_mem_append] at keep ⊢
      obtain ⟨right_value, right_operands⟩ := Expr.kept literal all right keep.2.1
      cases hy : right.evaluate prefs b with
      | error _ => simpa using ⟨left_operands, right_operands⟩
      | ok y =>
        simp only [hy, List.forall_mem_singleton] at keep ⊢
        have operands : ∀ z ∈ (Application.operator op x y).operands, P z := by
          simp [Application.operands, left_value x hx, right_value y hy]
        exact ⟨keep.2.2 operands, left_operands, right_operands, operands⟩
  | .call name args _ =>
    simp only [Expr.applications, List.forall_mem_append] at keep ⊢
    obtain ⟨values_kept, args_operands⟩ := Expr.keptIn literal all args keep.1
    simp only [Expr.evaluate]
    cases hvalues : Expr.evaluateAll prefs b args with
    | error _ => simpa using args_operands
    | ok values =>
      simp only [hvalues, List.forall_mem_singleton] at keep ⊢
      have operands := values_kept values hvalues
      exact ⟨keep.2 operands, args_operands, operands⟩

theorem Expr.keptIn (literal : ∀ l : Literal, P l.evaluate) (all : b.All P) (es : List Expr)
    (keep : ∀ a ∈ Expr.applicationsIn prefs b es, a.Keeps prefs b P) :
    (∀ values, Expr.evaluateAll prefs b es = .ok values → ∀ x ∈ values, P x) ∧
      ∀ a ∈ Expr.applicationsIn prefs b es, ∀ x ∈ a.operands, P x := by
  match es with
  | [] =>
    refine ⟨fun values h => ?_, by simp [Expr.applicationsIn]⟩
    cases h
    simp
  | e :: rest =>
    simp only [Expr.applicationsIn, List.forall_mem_append] at keep ⊢
    obtain ⟨first_value, first_operands⟩ := Expr.kept literal all e keep.1
    simp only [Expr.evaluateAll]
    cases hx : e.evaluate prefs b with
    | error _ => simpa using first_operands
    | ok x =>
      simp only [hx] at keep ⊢
      obtain ⟨rest_values, rest_operands⟩ := Expr.keptIn literal all rest keep.2
      refine ⟨fun values h => ?_, first_operands, rest_operands⟩
      split at h
      · cases h
      · rename_i xs hxs
        cases h
        exact List.forall_mem_cons.mpr ⟨first_value x hx, rest_values xs hxs⟩

end

theorem Statement.kept (literal : ∀ l : Literal, P l.evaluate) (all : b.All P) (s : Statement)
    (keep : ∀ a ∈ s.applications prefs b, a.Keeps prefs b P) :
    (∀ next output, s.execute prefs b = .ok (next, output) → next.All P ∧ ∀ x ∈ output, P x) ∧
      ∀ a ∈ s.applications prefs b, ∀ x ∈ a.operands, P x := by
  cases s with
  | declare name value _ =>
    simp only [applications, execute] at keep ⊢
    by_cases bound : b.contains name = true
    · simp [bound]
    · simp only [bound] at keep ⊢
      obtain ⟨value_kept, operands⟩ := value.kept literal all keep
      refine ⟨fun next output h => ?_, operands⟩
      simp only [Bool.false_eq_true, if_false] at h
      split at h
      · cases h
      · rename_i v hv
        split at h
        · rename_i after declared
          cases h
          exact ⟨all.declare (value_kept v hv) declared, by simp⟩
        · cases h
  | assign name value _ =>
    simp only [applications, execute] at keep ⊢
    by_cases bound : b.contains name = true
    · simp only [bound, if_true] at keep ⊢
      obtain ⟨value_kept, operands⟩ := value.kept literal all keep
      refine ⟨fun next output h => ?_, operands⟩
      split at h
      · cases h
      · rename_i v hv
        split at h
        · rename_i after assigned
          cases h
          exact ⟨all.assign (value_kept v hv) assigned, by simp⟩
        · cases h
    · simp [bound]
  | print value _ =>
    obtain ⟨value_kept, operands⟩ := value.kept literal all keep
    refine ⟨fun next output h => ?_, operands⟩
    rw [execute] at h
    split at h
    · cases h
    · rename_i v hv
      cases h
      exact ⟨all, by simpa using value_kept v hv⟩

/-- A property that literals have, and that the applications of a run keep wherever all bound values
have it. -/
structure Program.Upholds (prefs : Window.Preferences) (start : Bindings)
    (program : List Statement) (P : Value → Prop) : Prop where
  literal : ∀ l : Literal, P l.evaluate
  application : ∀ k b printed s, Reaches prefs start program k b printed → program[k]? = some s →
    b.All P → ∀ a ∈ s.applications prefs b, a.Keeps prefs b P

namespace Program.Upholds

theorem reaches (upheld : Upholds prefs start program P) (all : start.All P)
    (h : Reaches prefs start program k b printed) : b.All P ∧ ∀ x ∈ printed, P x := by
  induction h with
  | start => exact ⟨all, by simp⟩
  | step before at_k ran ih =>
    obtain ⟨here, passed⟩ := ih
    have keep := upheld.application _ _ _ _ before at_k here
    obtain ⟨after, output⟩ := (Statement.kept upheld.literal here _ keep).1 _ _ ran
    exact ⟨after, List.forall_mem_append.mpr ⟨passed, output⟩⟩

/-- Every value that a run handles has the property. -/
theorem handles (upheld : Upholds prefs start program P) (all : start.All P) {v : Value}
    (h : Handles prefs start program v) : P v := by
  have operands {k : Nat} {b : Bindings} {printed : List Value} {s : Statement} {a : Application}
      (reached : Reaches prefs start program k b printed) (at_k : program[k]? = some s)
      (applied : a ∈ s.applications prefs b) :
      (∀ x ∈ a.operands, P x) ∧ a.Keeps prefs b P := by
    have here := (upheld.reaches all reached).1
    have keep := upheld.application k b printed s reached at_k here
    exact ⟨(Statement.kept upheld.literal here s keep).2 a applied, keep a applied⟩
  cases h with
  | bound reached mem => exact (upheld.reaches all reached).1 _ v mem
  | printed reached mem => exact (upheld.reaches all reached).2 v mem
  | operand reached at_k applied mem => exact (operands reached at_k applied).1 v mem
  | result reached at_k applied given =>
    obtain ⟨having, keeps⟩ := operands reached at_k applied
    exact keeps having v given

end Program.Upholds

namespace Value.Invariant

theorem upheld (inv : Invariant prefs P) : Program.Upholds prefs start program P where
  literal := inv.literal
  application k b printed s _ _ _ a _ operands v given := by
    cases a with
    | operator op left right =>
      simp only [Application.operands, List.forall_mem_cons] at operands
      exact inv.operator op left right v operands.1 operands.2.1 given
    | function name args => exact inv.function _ name args v operands given

theorem reaches (inv : Invariant prefs P) (all : start.All P)
    (h : Program.Reaches prefs start program k b printed) : b.All P ∧ ∀ x ∈ printed, P x :=
  inv.upheld.reaches all h

/-- Every value that a run handles has the property. -/
theorem handles (inv : Invariant prefs P) (all : start.All P) {v : Value}
    (h : Program.Handles prefs start program v) : P v :=
  inv.upheld.handles all h

end Value.Invariant

/-! ## The start of a run -/

theorem PointStream.series_eq_ok {s : PointStream} {name : String} {data : Series}
    (h : s.series name = .ok data) :
    ∃ points, s.content = .ok points ∧ data = ⟨arrange s.order points, s.kind⟩ := by
  rw [series] at h
  split at h
  · cases h
  · split at h <;> cases h
    rename_i points content
    exact ⟨points, content, rfl⟩

theorem Store.bindAll_all {streams : List (String × PointStream)}
    (given : ∀ entry ∈ streams, ∀ data, entry.2.series entry.1 = .ok data → P (.series data))
    (all : b.All P) (h : bindAll streams b = .ok start) : start.All P := by
  induction streams generalizing b with
  | nil =>
    cases h
    exact all
  | cons entry rest ih =>
    obtain ⟨name, s⟩ := entry
    obtain ⟨first, others⟩ := List.forall_mem_cons.mp given
    rw [bindAll] at h
    split at h
    · rename_i data read
      refine ih others ?_ h
      cases declared : b.declare? name (.series data) with
      | none => exact all
      | some next => exact all.declare (first data read) declared
    · cases h

/-- A property that the series of all streams have holds of what a run starts from. -/
theorem Store.bindings_all {store : Store}
    (given : ∀ entry ∈ store.streams, ∀ data, entry.2.series entry.1 = .ok data →
      P (.series data)) (h : store.bindings = .ok start) : start.All P :=
  bindAll_all given (b := .empty) (by simp [Bindings.All, Bindings.toList, Bindings.empty]) h

end SeriesScript
