import Mathlib.Data.List.Forall2
import SeriesScript.Proofs.Evaluation.Handled
import SeriesScript.Proofs.Evaluation.Rename

/-!
# Runs that correspond

Two runs of one program, the second of them under other names, can be compared step by step. A
correspondence says which values, and which bindings, of the second run answer to those of the
first. What is kept by literals, by operators and by a single binding is kept by expressions,
statements and whole runs, as long as corresponding calls have corresponding results.
-/
namespace SeriesScript

/-- Two results that match: two errors or two values, and they are related. -/
inductive Matched {α β : Type} (E : ScriptError → ScriptError → Prop) (P : α → β → Prop) :
    Except ScriptError α → Except ScriptError β → Prop
  | ok {a : α} {b : β} (related : P a b) : Matched E P (.ok a) (.ok b)
  | error {e e' : ScriptError} (related : E e e') : Matched E P (.error e) (.error e')

namespace Matched

variable {α β γ δ : Type} {E E' : ScriptError → ScriptError → Prop} {P P' : α → β → Prop}
  {Q : γ → δ → Prop} {r : Except ScriptError α} {r' : Except ScriptError β}

theorem imp (h : Matched E P r r') (hE : ∀ e e', E e e' → E' e e') (hP : ∀ a b, P a b → P' a b) :
    Matched E' P' r r' := by
  cases h with
  | ok related => exact .ok (hP _ _ related)
  | error related => exact .error (hE _ _ related)

theorem refl {P : α → α → Prop} (hP : ∀ a, P a a) (r : Except ScriptError α) :
    Matched Eq P r r := by
  cases r with
  | ok a => exact .ok (hP a)
  | error e => exact .error rfl

theorem bind {f : α → Except ScriptError γ} {f' : β → Except ScriptError δ} (h : Matched E P r r')
    (hf : ∀ a b, P a b → Matched E Q (f a) (f' b)) : Matched E Q (r >>= f) (r' >>= f') := by
  cases h with
  | ok related => exact hf _ _ related
  | error related => exact .error related

end Matched

/-- What it takes for one run to follow another under names of its own. -/
structure Correspondence where
  rename : String → String
  /-- The names that the following run knows. -/
  keeps : String → Prop
  value : Value → Value → Prop
  bindings : Bindings → Bindings → Prop
  get : ∀ {b b' : Bindings} {name : String}, bindings b b' → keeps name →
    Option.Rel value (b.get? name) (b'.get? (rename name))
  declare : ∀ {b b' next next' : Bindings} {name : String} {v v' : Value}, bindings b b' →
    keeps name → value v v' → b.declare? name v = some next →
    b'.declare? (rename name) v' = some next' → bindings next next'
  assign : ∀ {b b' next next' : Bindings} {name : String} {v v' : Value}, bindings b b' →
    keeps name → value v v' → b.assign? name v = some next →
    b'.assign? (rename name) v' = some next' → bindings next next'
  literal : ∀ l : Literal, value l.evaluate l.evaluate
  operator : ∀ (op : BinaryOp) {x x' y y' : Value}, value x x' → value y y' →
    Matched (fun e e' => e' = e.rename rename) value (x.apply op y) (x'.apply op y')

def Statement.names : Statement → List String
  | declare name value _ => name :: value.references.map Reference.name
  | assign name value _ => name :: value.references.map Reference.name
  | print value _ => value.references.map Reference.name

namespace Correspondence

variable (C : Correspondence) {prefs : Window.Preferences} {b b' : Bindings}

def Matches {α β : Type} (P : α → β → Prop) : Except ScriptError α → Except ScriptError β → Prop :=
  Matched (fun e e' => e' = e.rename C.rename) P

/-- Where both runs call a function with corresponding arguments, its results match. -/
def CallsMatch (prefs : Window.Preferences) (b b' : Bindings) (calls calls' : List Application) :
    Prop :=
  ∀ name args args', .function name args ∈ calls → .function name args' ∈ calls' →
    List.Forall₂ C.value args args' →
    C.Matches C.value (callFunction prefs b.earliest? name args)
      (callFunction prefs b'.earliest? name args')

variable {C}

theorem CallsMatch.mono {some some' all all' : List Application}
    (h : C.CallsMatch prefs b b' all all') (sub : some ⊆ all) (sub' : some' ⊆ all') :
    C.CallsMatch prefs b b' some some' :=
  fun name args args' mem mem' => h name args args' (sub mem) (sub' mem')

theorem contains_eq {name : String} (bound : C.bindings b b') (kept : C.keeps name) :
    b'.contains (C.rename name) = b.contains name := by
  rw [← Bindings.get?_isSome, ← Bindings.get?_isSome]
  have known := C.get bound kept
  generalize b.get? name = v, b'.get? (C.rename name) = v' at known
  cases known <;> rfl

/-! ## Expressions -/

mutual

theorem evaluate (bound : C.bindings b b') (e : Expr) (kept : ∀ r ∈ e.references, C.keeps r.name)
    (calls : C.CallsMatch prefs b b' (e.applications prefs b)
      ((e.rename C.rename).applications prefs b')) :
    C.Matches C.value (e.evaluate prefs b) ((e.rename C.rename).evaluate prefs b') := by
  match e with
  | .literal l _ => exact .ok (C.literal l)
  | .reference name span =>
    have known := C.get bound (kept ⟨name, span⟩ (List.mem_singleton_self _))
    simp only [Expr.rename, Expr.evaluate]
    generalize b.get? name = v, b'.get? (C.rename name) = v' at known
    cases known with
    | some related => exact .ok related
    | none => exact .error rfl
  | .binary op left right span =>
    simp only [Expr.references, List.mem_append] at kept
    simp only [Expr.rename, Expr.applications] at calls
    have left_matches := evaluate bound left (fun r hr => kept r (.inl hr))
      (calls.mono (List.subset_append_left _ _) (List.subset_append_left _ _))
    simp only [Expr.rename, Expr.evaluate]
    generalize left.evaluate prefs b = x, (left.rename C.rename).evaluate prefs b' = x'
      at left_matches calls
    cases left_matches with
    | error related => exact .error related
    | ok left_related =>
      -- now that both left operands have values, the calls of the right ones count as well
      have right_matches := evaluate bound right (fun r hr => kept r (.inr hr))
        (calls.mono (by simp) (by simp))
      generalize right.evaluate prefs b = y, (right.rename C.rename).evaluate prefs b' = y'
        at right_matches
      cases right_matches with
      | error related => exact .error related
      | ok right_related => exact C.operator op left_related right_related
  | .call name args span =>
    simp only [Expr.rename, Expr.applications] at calls
    have args_match := evaluateAll bound args kept
      (calls.mono (List.subset_append_left _ _) (List.subset_append_left _ _))
    simp only [Expr.rename, Expr.evaluate]
    generalize Expr.evaluateAll prefs b args = values,
      Expr.evaluateAll prefs b' (Expr.renameIn C.rename args) = values' at args_match calls
    cases args_match with
    | error related => exact .error related
    | ok related => exact calls name _ _ (by simp) (by simp) related

theorem evaluateAll (bound : C.bindings b b') (es : List Expr)
    (kept : ∀ r ∈ Expr.referencesIn es, C.keeps r.name)
    (calls : C.CallsMatch prefs b b' (Expr.applicationsIn prefs b es)
      (Expr.applicationsIn prefs b' (Expr.renameIn C.rename es))) :
    C.Matches (List.Forall₂ C.value) (Expr.evaluateAll prefs b es)
      (Expr.evaluateAll prefs b' (Expr.renameIn C.rename es)) := by
  match es with
  | [] => exact .ok .nil
  | e :: rest =>
    simp only [Expr.referencesIn, List.mem_append] at kept
    simp only [Expr.renameIn, Expr.applicationsIn] at calls
    have first_matches := evaluate bound e (fun r hr => kept r (.inl hr))
      (calls.mono (List.subset_append_left _ _) (List.subset_append_left _ _))
    simp only [Expr.renameIn, Expr.evaluateAll]
    generalize e.evaluate prefs b = x, (e.rename C.rename).evaluate prefs b' = x'
      at first_matches calls
    cases first_matches with
    | error related => exact .error related
    | ok first_related =>
      have rest_match := evaluateAll bound rest (fun r hr => kept r (.inr hr))
        (calls.mono (by simp) (by simp))
      generalize Expr.evaluateAll prefs b rest = xs,
        Expr.evaluateAll prefs b' (Expr.renameIn C.rename rest) = xs' at rest_match
      cases rest_match with
      | error related => exact .error related
      | ok rest_related => exact .ok (.cons first_related rest_related)

end

/-! ## Statements -/

theorem execute (bound : C.bindings b b') (s : Statement) (kept : ∀ name ∈ s.names, C.keeps name)
    (calls : C.CallsMatch prefs b b' (s.applications prefs b)
      ((s.rename C.rename).applications prefs b')) :
    C.Matches (fun o o' => C.bindings o.1 o'.1 ∧ List.Forall₂ C.value o.2 o'.2)
      (s.execute prefs b) ((s.rename C.rename).execute prefs b') := by
  cases s with
  | declare name value span =>
    simp only [Statement.names, List.forall_mem_cons, List.forall_mem_map] at kept
    have same := contains_eq bound kept.1
    simp only [Statement.rename, Statement.applications, same] at calls
    simp only [Statement.rename, Statement.execute, same]
    by_cases free : b.contains name = true
    · simp only [free, if_true]
      exact .error rfl
    · simp only [free] at calls ⊢
      have value_matches := evaluate bound value kept.2 calls
      generalize value.evaluate prefs b = x, (value.rename C.rename).evaluate prefs b' = x'
        at value_matches
      cases value_matches with
      | error related => exact .error related
      | @ok v v' related =>
        rw [Bool.not_eq_true] at free
        obtain ⟨next, hn, -⟩ := Bindings.declare?_of_not_contains free v
        obtain ⟨next', hn', -⟩ := Bindings.declare?_of_not_contains (same.trans free) v'
        simp only [hn, hn']
        exact .ok ⟨C.declare bound kept.1 related hn hn', .nil⟩
  | assign name value span =>
    simp only [Statement.names, List.forall_mem_cons, List.forall_mem_map] at kept
    have same := contains_eq bound kept.1
    simp only [Statement.rename, Statement.applications, same] at calls
    simp only [Statement.rename, Statement.execute, same]
    by_cases known : b.contains name = true
    · simp only [known, if_true] at calls ⊢
      have value_matches := evaluate bound value kept.2 calls
      generalize value.evaluate prefs b = x, (value.rename C.rename).evaluate prefs b' = x'
        at value_matches
      cases value_matches with
      | error related => exact .error related
      | @ok v v' related =>
        obtain ⟨next, _, hn, -⟩ := Bindings.assign?_of_contains known v
        obtain ⟨next', _, hn', -⟩ := Bindings.assign?_of_contains (same.trans known) v'
        simp only [hn, hn']
        exact .ok ⟨C.assign bound kept.1 related hn hn', .nil⟩
    · simp only [known]
      exact .error rfl
  | print value span =>
    simp only [Statement.names, List.forall_mem_map] at kept
    have value_matches := evaluate bound value kept calls
    simp only [Statement.rename, Statement.execute]
    generalize value.evaluate prefs b = x, (value.rename C.rename).evaluate prefs b' = x'
      at value_matches
    cases value_matches with
    | error related => exact .error related
    | ok related => exact .ok ⟨bound, .cons related .nil⟩

/-! ## Runs -/

/-- Corresponding outcomes: the same number of printed values, each answering to its like, and
corresponding bindings or the same error under the other names. -/
structure Outcomes (C : Correspondence) (o o' : Outcome) : Prop where
  printed : List.Forall₂ C.value o.printed o'.printed
  result : C.Matches C.bindings o.result o'.result

theorem Outcomes.after {o o' : Outcome} {printed printed' : List Value} (h : C.Outcomes o o')
    (before : List.Forall₂ C.value printed printed') :
    C.Outcomes (o.after printed) (o'.after printed') :=
  ⟨List.rel_append before h.printed, h.result⟩

/-- Where both runs arrive at a statement with corresponding bindings, its calls match. -/
def CallsMatchAlong (C : Correspondence) (prefs : Window.Preferences) (b b' : Bindings)
    (program : List Statement) : Prop :=
  ∀ k c c' printed printed' s, Program.Reaches prefs b program k c printed →
    Program.Reaches prefs b' (Program.rename C.rename program) k c' printed' → C.bindings c c' →
    program[k]? = some s →
    C.CallsMatch prefs c c' (s.applications prefs c) ((s.rename C.rename).applications prefs c')

theorem run (prefs : Window.Preferences) (program : List Statement) (bound : C.bindings b b')
    (kept : ∀ s ∈ program, ∀ name ∈ s.names, C.keeps name)
    (calls : C.CallsMatchAlong prefs b b' program) :
    C.Outcomes (Program.execute prefs b program)
      (Program.execute prefs b' (Program.rename C.rename program)) := by
  induction program generalizing b b' with
  | nil => exact ⟨.nil, .ok bound⟩
  | cons s rest ih =>
    rw [List.forall_mem_cons] at kept
    have here := C.execute bound s kept.1 (calls 0 b b' [] [] s .start .start bound rfl)
    simp only [Program.rename, List.map_cons, Program.execute]
    generalize hs : s.execute prefs b = x, hs' : (s.rename C.rename).execute prefs b' = x' at here
    cases here with
    | error related => exact ⟨.nil, .error related⟩
    | @ok o o' related =>
      refine (ih related.1 kept.2 fun k c c' p p' t reached reached' hc at_k => ?_).after related.2
      exact calls (k + 1) c c' _ _ t (reached.cons hs) (reached'.cons hs') hc at_k

/-! ## Runs from a store -/

/-- Streams that answer to each other start runs from corresponding bindings. -/
theorem bindAll {streams streams' : List (String × PointStream)} (bound : C.bindings b b')
    (h : List.Forall₂ (fun entry entry' => entry'.1 = C.rename entry.1 ∧ C.keeps entry.1 ∧
      C.Matches (fun s s' => C.value (.series s) (.series s')) (entry.2.series entry.1)
        (entry'.2.series entry'.1)) streams streams') :
    C.Matches C.bindings (Store.bindAll streams b) (Store.bindAll streams' b') := by
  induction h generalizing b b' with
  | nil => exact .ok bound
  | @cons entry entry' rest rest' head _ ih =>
    obtain ⟨name, s⟩ := entry
    obtain ⟨name', s'⟩ := entry'
    obtain ⟨rfl, kept, read⟩ := head
    simp only [Store.bindAll] at read ⊢
    generalize s.series name = x, s'.series (C.rename name) = x' at read
    cases read with
    | error related => exact .error related
    | @ok data data' related =>
      apply ih
      have same := contains_eq bound kept
      cases free : b.contains name with
      | true =>
        rw [Bindings.declare?_of_contains free, Bindings.declare?_of_contains (same.trans free)]
        exact bound
      | false =>
        obtain ⟨next, hn, -⟩ := Bindings.declare?_of_not_contains free (.series data)
        obtain ⟨next', hn', -⟩ :=
          Bindings.declare?_of_not_contains (same.trans free) (.series data')
        rw [hn, hn']
        exact C.declare bound kept related hn hn'

theorem evaluation (prefs : Window.Preferences) (program : List Statement) {store store' : Store}
    (seeds : C.Matches C.bindings store.bindings store'.bindings)
    (kept : ∀ s ∈ program, ∀ name ∈ s.names, C.keeps name)
    (calls : ∀ start start', store.bindings = .ok start → store'.bindings = .ok start' →
      C.CallsMatchAlong prefs start start' program) :
    C.Outcomes (Program.evaluate prefs store program)
      (Program.evaluate prefs store' (Program.rename C.rename program)) := by
  rw [Program.evaluate, Program.evaluate]
  generalize hs : store.bindings = x, hs' : store'.bindings = x' at seeds
  cases seeds with
  | error related => exact ⟨.nil, .error related⟩
  | @ok start start' bound =>
    exact C.run prefs program bound kept (calls start start' hs hs')

end Correspondence

end SeriesScript
