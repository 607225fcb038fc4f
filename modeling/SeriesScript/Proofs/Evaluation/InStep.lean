import Mathlib.Data.Set.Function
import SeriesScript.Proofs.Evaluation.Correspondence

/-!
# Bindings in step

The entries of the first bindings whose names are kept, in their order, answer to all entries of the
second ones. Declarations and assignments of kept names keep the bindings in step, so that this is
a correspondence for all programs with kept names only.
-/
namespace SeriesScript

/-- The entries of `b` under kept names are, in order, those of `b'` under the other names. -/
def Bindings.InStep (keeps : String → Bool) (rename : String → String)
    (value : Value → Value → Prop) (b b' : Bindings) : Prop :=
  List.Forall₂ (fun entry entry' => entry'.1 = rename entry.1 ∧ value entry.2 entry'.2)
    (b.toList.filter fun entry => keeps entry.1) b'.toList

namespace Bindings.InStep

variable {keeps : String → Bool} {rename : String → String} {value : Value → Value → Prop}
  {b b' next next' : Bindings} {name : String} {v v' : Value}

theorem exists_of_mem {α β : Type} {R : α → β → Prop} {l : List α} {l' : List β} {a : α}
    (h : List.Forall₂ R l l') (mem : a ∈ l) : ∃ a' ∈ l', R a a' := by
  induction h with
  | nil => cases mem
  | cons head _ ih =>
    rcases List.mem_cons.mp mem with rfl | mem
    · exact ⟨_, List.mem_cons_self, head⟩
    · obtain ⟨a', mem', related⟩ := ih mem
      exact ⟨a', List.mem_cons_of_mem _ mem', related⟩

theorem get (injective : Set.InjOn rename {name | keeps name = true})
    (h : InStep keeps rename value b b') (kept : keeps name = true) :
    Option.Rel value (b.get? name) (b'.get? (rename name)) := by
  cases hv : b.get? name with
  | some v =>
    have mem := Bindings.get?_eq_some_iff.mp hv
    obtain ⟨⟨_, v'⟩, mem', rfl, related⟩ := exists_of_mem h (List.mem_filter.mpr ⟨mem, kept⟩)
    rw [Bindings.get?_eq_some_iff.mpr mem']
    exact .some related
  | none =>
    cases hv' : b'.get? (rename name) with
    | none => exact .none
    | some v' =>
      have mem' := Bindings.get?_eq_some_iff.mp hv'
      obtain ⟨⟨other, v⟩, mem, same, -⟩ := exists_of_mem h.flip mem'
      obtain ⟨mem, kept'⟩ := List.mem_filter.mp mem
      have : name = other := injective kept kept' same
      subst this
      rw [Bindings.get?_eq_some_iff.mpr mem] at hv
      cases hv

theorem declare (h : InStep keeps rename value b b') (kept : keeps name = true)
    (related : value v v') (declared : b.declare? name v = some next)
    (declared' : b'.declare? (rename name) v' = some next') :
    InStep keeps rename value next next' := by
  have stays : [(name, v)].filter (fun entry => keeps entry.1) = [(name, v)] := by simp [kept]
  rw [InStep, toList_of_declare? declared, toList_of_declare? declared', List.filter_append, stays]
  exact List.rel_append h (.cons ⟨rfl, related⟩ .nil)

theorem assign (injective : Set.InjOn rename {name | keeps name = true})
    (h : InStep keeps rename value b b') (kept : keeps name = true) (related : value v v')
    (assigned : b.assign? name v = some next)
    (assigned' : b'.assign? (rename name) v' = some next') :
    InStep keeps rename value next next' := by
  rw [InStep, toList_of_assign?_eq_map assigned, toList_of_assign?_eq_map assigned']
  rw [InStep] at h
  have same_names : ∀ entry : String × Value,
      keeps (if entry.1 = name then (name, v) else entry).1 = keeps entry.1 := by
    intro entry
    by_cases hn : entry.1 = name <;> simp [hn]
  simp only [List.filter_map, Function.comp_def, same_names]
  rw [List.forall₂_map_left_iff, List.forall₂_map_right_iff]
  have all_kept : ∀ entry ∈ b.toList.filter (fun entry => keeps entry.1), keeps entry.1 = true :=
    fun entry mem => (List.mem_filter.mp mem).2
  refine ((List.forall₂_and_left _ _).mpr ⟨all_kept, h⟩).imp ?_
  rintro ⟨n, w⟩ ⟨_, w'⟩ ⟨kept', rfl, rel⟩
  by_cases hn : n = name
  · subst hn
    simpa using related
  · have hn' : rename n ≠ rename name := fun he => hn (injective kept' kept he)
    simpa [hn, hn'] using rel

end Bindings.InStep

def Correspondence.inStep (keeps : String → Bool) (rename : String → String)
    (value : Value → Value → Prop) (injective : Set.InjOn rename {name | keeps name = true})
    (literal : ∀ l : Literal, value l.evaluate l.evaluate)
    (operator : ∀ (op : BinaryOp) {x x' y y' : Value}, value x x' → value y y' →
      Matched (fun e e' => e' = e.rename rename) value (x.apply op y) (x'.apply op y')) :
    Correspondence where
  rename := rename
  keeps name := keeps name = true
  value := value
  bindings := Bindings.InStep keeps rename value
  get := Bindings.InStep.get injective
  declare := Bindings.InStep.declare
  assign := Bindings.InStep.assign injective
  literal := literal
  operator := operator

/-! ## The same values under other names -/

theorem FailsOnValues.matched {α : Type} {r : Except ScriptError α} (h : FailsOnValues r)
    (f : String → String) : Matched (fun e e' => e' = e.rename f) Eq r r := by
  cases r with
  | ok a => exact .ok rfl
  | error e => exact .error (ScriptError.rename_of_concernsValues (h e rfl)).symm

namespace Correspondence

/-- Runs that differ in names only, and in entries that one of them does not know. -/
def sameValues (keeps : String → Bool) (f : String → String)
    (injective : Set.InjOn f {name | keeps name = true}) : Correspondence :=
  .inStep keeps f Eq injective (fun _ => rfl) fun op x x' y y' hx hy => by
    subst hx hy
    exact (Value.apply_failsOnValues op x y).matched f

/-- Runs of one program that give each name the same value. -/
def ofEq (related : Bindings → Bindings → Prop)
    (get : ∀ {b b' : Bindings}, related b b' → ∀ name, b'.get? name = b.get? name)
    (declare : ∀ {b b' next next' : Bindings} {name : String} {v : Value}, related b b' →
      b.declare? name v = some next → b'.declare? name v = some next' → related next next')
    (assign : ∀ {b b' next next' : Bindings} {name : String} {v : Value}, related b b' →
      b.assign? name v = some next → b'.assign? name v = some next' → related next next') :
    Correspondence where
  rename := id
  keeps _ := True
  value := Eq
  bindings := related
  get {b b' name} bound _ := by
    rw [id, get bound name]
    cases b.get? name with
    | none => exact .none
    | some v => exact .some rfl
  declare bound _ same declared declared' := declare bound declared (same ▸ declared')
  assign bound _ same assigned assigned' := assign bound assigned (same ▸ assigned')
  literal _ := rfl
  operator op x x' y y' hx hy := by
    subst hx hy
    exact (Value.apply_failsOnValues op x y).matched id

variable {keeps : String → Bool} {f : String → String}
  {injective : Set.InjOn f {name | keeps name = true}} {b b' : Bindings}
  {prefs : Window.Preferences}

theorem toList_of_sameValues (h : (sameValues keeps f injective).bindings b b') :
    b'.toList = (b.toList.filter fun entry => keeps entry.1).map (Prod.map f id) := by
  have in_step : Bindings.InStep keeps f Eq b b' := h
  rw [Bindings.InStep] at in_step
  generalize b.toList.filter (fun entry => keeps entry.1) = entries, b'.toList = entries' at in_step
  induction in_step with
  | nil => rfl
  | @cons entry entry' _ _ head _ ih =>
    obtain ⟨name, v⟩ := entry
    obtain ⟨name', v'⟩ := entry'
    obtain ⟨rfl, rfl⟩ := head
    rw [List.map_cons, ← ih]
    rfl

theorem sameValues_bindings_iff : (sameValues keeps f injective).bindings b b' ↔
    b'.toList = (b.toList.filter fun entry => keeps entry.1).map (Prod.map f id) := by
  refine ⟨toList_of_sameValues, fun h => ?_⟩
  change List.Forall₂ _ _ b'.toList
  rw [h, List.forall₂_map_right_iff, List.forall₂_same]
  exact fun _ _ => ⟨rfl, rfl⟩

/-- Where the values are the same, calls match if they do not depend on what the bindings differ
in. -/
theorem callsMatch_of_eq {C : Correspondence} (same_values : C.value = Eq)
    {calls calls' : List Application}
    (h : ∀ name args, .function name args ∈ calls →
      callFunction prefs b.earliest? name args = callFunction prefs b'.earliest? name args) :
    C.CallsMatch prefs b b' calls calls' := by
  intro name args args' mem _ related
  rw [same_values] at related ⊢
  have same : args = args' := List.forall₂_eq_eq_eq ▸ related
  subst same
  rw [← h name args mem]
  exact (callFunction_failsOnValues prefs b.earliest? name args).matched C.rename

theorem callsMatch_sameValues {calls calls' : List Application}
    (h : ∀ name args, .function name args ∈ calls →
      callFunction prefs b.earliest? name args = callFunction prefs b'.earliest? name args) :
    (sameValues keeps f injective).CallsMatch prefs b b' calls calls' :=
  callsMatch_of_eq rfl h

theorem Outcomes.printed_eq_of_eq {C : Correspondence} (same_values : C.value = Eq)
    {o o' : Outcome} (h : C.Outcomes o o') : o'.printed = o.printed := by
  have printed := h.printed
  rw [same_values, List.forall₂_eq_eq_eq] at printed
  exact printed.symm

theorem Outcomes.printed_eq {o o' : Outcome}
    (h : (sameValues keeps f injective).Outcomes o o') : o'.printed = o.printed :=
  printed_eq_of_eq rfl h

end Correspondence

end SeriesScript
