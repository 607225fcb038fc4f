import SeriesScript.Proofs.Evaluation.Applications
import SeriesScript.Proofs.Evaluation.InStep
import SeriesScript.Proofs.Evaluation.Inputs
import SeriesScript.Proofs.Scope.Runs
import SeriesScript.Proofs.Window.Partition

/-!
# Unused variables

A declaration whose variable no other statement mentions can be left out. The runs with and without
it have bindings in step, but for that variable, and all functions but `Bin` see their arguments
only. `Bin` also sees the earliest time of all bound series, so it notices the variable where that
is bound to a series with points.
-/
namespace SeriesScript

variable {prefs : Window.Preferences} {b next start : Bindings} {program : List Statement} {k : Nat}
  {printed output : List Value} {name : String}

/-! ## What fixed windows see of a run -/

/-- Only fixed windows depend on where they have to begin. -/
theorem Invocation.perform_independent (prefs : Window.Preferences) {invocation : Invocation}
    (other : ∀ data r window fallback, invocation ≠ .bin data r window fallback)
    (hardStart hardStart' : Option Timestamp) :
    invocation.perform prefs hardStart = invocation.perform prefs hardStart' := by
  cases invocation with
  | bin data r window fallback => exact absurd rfl (other data r window fallback)
  | _ => rfl

theorem callFunction_independent (ne : name ≠ "Bin") (values : List Value)
    (hardStart hardStart' : Option Timestamp) :
    callFunction prefs hardStart name values = callFunction prefs hardStart' name values := by
  rw [callFunction, callFunction]
  cases hf : Function.ofName? name with
  | none => rfl
  | some f =>
    have other : f ≠ .bin := by
      rintro rfl
      exact ne (Function.eq_bin_of_ofName? hf)
    simp only
    cases hi : f.prepare values with
    | error e => rfl
    | ok invocation =>
      have no_bin := f.prepare_gives_not_bin other values invocation hi
      simp only [Invocation.perform_independent prefs no_bin hardStart hardStart']

/-- A variable that is not bound to a series with points does not move the earliest time. -/
theorem Bindings.earliest?_of_filter {without : Bindings} {v : Value} (bound : b.get? name = some v)
    (empty : ∀ s, v = .series s → s.points = [])
    (h : without.toList = b.toList.filter fun entry => entry.1 != name) :
    without.earliest? = b.earliest? := by
  rw [earliest?, earliest?, h, List.filterMap_filter]
  congr 1
  apply List.filterMap_congr
  rintro ⟨other, w⟩ mem
  by_cases same : other = name
  · subst same
    have : v = w := by
      rw [get?_eq_some_iff.mpr mem] at bound
      exact (Option.some.inj bound).symm
    subst this
    cases v with
    | series s => simp [Value.series?, Series.earliest?, empty s rfl]
    | _ => simp [Value.series?]
  · simp [same]

/-! ## Statements that do not mention a variable -/

theorem Statement.get?_of_execute {s : Statement} (unmentioned : name ∉ s.names)
    (h : s.execute prefs b = .ok (next, output)) : next.get? name = b.get? name := by
  cases s with
  | declare target value _ =>
    simp only [names, List.mem_cons, not_or] at unmentioned
    rw [execute] at h
    split at h
    · cases h
    · split at h
      · cases h
      · split at h
        · rename_i after declared
          cases h
          exact Bindings.get?_of_declare? declared unmentioned.1
        · cases h
  | assign target value _ =>
    simp only [names, List.mem_cons, not_or] at unmentioned
    rw [execute] at h
    split at h
    · split at h
      · cases h
      · split at h
        · rename_i after assigned
          cases h
          exact Bindings.get?_of_assign? assigned unmentioned.1
        · cases h
    · cases h
  | print value _ =>
    rw [execute] at h
    split at h
    · cases h
    · cases h
      rfl

namespace Program

/-- A variable that no statement mentions keeps its value. -/
theorem Reaches.get?_eq (h : Reaches prefs start program k b printed)
    (unmentioned : ∀ s ∈ program, name ∉ s.names) : b.get? name = start.get? name := by
  induction h with
  | start => rfl
  | step _ at_k ran ih =>
    rw [Statement.get?_of_execute (unmentioned _ (List.mem_of_getElem? at_k)) ran, ih]

/-- How a run arrives at a statement is decided by the statements before it. -/
theorem Reaches.of_getElem?_eq {other : List Statement}
    (h : Reaches prefs start program k b printed) (same : ∀ j < k, other[j]? = program[j]?) :
    Reaches prefs start other k b printed := by
  induction h with
  | start => exact .start
  | @step k _ _ _ _ _ _ at_k ran ih =>
    refine .step (ih fun j hj => same j (by omega)) ?_ ran
    rw [same k (by omega), at_k]

end Program

theorem Statement.execute_declare {x : String} {e : Expr} {span : Option Span}
    (h : (declare x e span).execute prefs b = .ok (next, output)) :
    b.contains x = false ∧ output = [] ∧ ∃ v, next.toList = b.toList ++ [(x, v)] := by
  rw [execute] at h
  split at h
  · cases h
  · rename_i free
    split at h
    · cases h
    · rename_i v _
      split at h
      · rename_i after declared
        cases h
        exact ⟨Bool.not_eq_true _ ▸ free, rfl, v, Bindings.toList_of_declare? declared⟩
      · cases h

def Correspondence.without (name : String) : Correspondence :=
  .sameValues (fun other => other != name) id (Set.injOn_id _)

theorem Correspondence.without_bindings_iff {b b' : Bindings} :
    (without name).bindings b b' ↔ b'.toList = b.toList.filter fun entry => entry.1 != name := by
  rw [without, sameValues_bindings_iff]
  simp

theorem Correspondence.without_of_declared {v : Value} (free : b.contains name = false)
    (declared : next.toList = b.toList ++ [(name, v)]) : (without name).bindings next b := by
  rw [without_bindings_iff, declared, List.filter_append]
  have others : b.toList.filter (fun entry => entry.1 != name) = b.toList := by
    apply List.filter_eq_self.mpr
    rintro ⟨other, w⟩ mem
    have : other ≠ name := by
      rintro rfl
      have := Bindings.contains_iff.mpr ⟨w, Bindings.get?_eq_some_iff.mpr mem⟩
      simp [free] at this
    simpa using this
  simp [others]

/-- What follows a declaration runs alike with and without its variable, if it neither mentions nor
sees that. -/
theorem Correspondence.run_without {b' : Bindings} {rest : List Statement} {v : Value}
    (bound : (without name).bindings b b') (value : b.get? name = some v)
    (unmentioned : ∀ s ∈ rest, name ∉ s.names)
    (unseen : (∀ s ∈ rest, "Bin" ∉ s.value.functions) ∨ ∀ s, v = .series s → s.points = []) :
    (without name).Outcomes (Program.execute prefs b rest) (Program.execute prefs b' rest) := by
  have outcomes := (without name).run prefs rest bound ?_ ?_
  · rwa [show Program.rename (without name).rename rest = rest from Program.rename_id rest]
      at outcomes
  · intro s mem other hn
    have : other ≠ name := fun same => unmentioned s mem (same ▸ hn)
    exact bne_iff_ne.mpr this
  · intro k c c' _ _ s reached _ bound at_k
    apply callsMatch_sameValues
    intro called args call
    rcases unseen with no_bin | empty
    · have mem := Statement.mem_functions call
      have other : called ≠ "Bin" := fun same =>
        no_bin s (List.mem_of_getElem? at_k) (same ▸ mem)
      exact callFunction_independent other args _ _
    · have kept : c.get? name = some v := (reached.get?_eq unmentioned).trans value
      rw [Bindings.earliest?_of_filter kept empty (without_bindings_iff.mp bound)]

namespace Program

/-- A declaration that a run passes, of a variable that no other statement mentions, can be left
out: the run prints the same, and ends with the same error or with the same bindings but that one.
Only where a program calls `Bin`, which looks at all bound series, the variable must not be bound to
a series with points. -/
theorem evaluate_eraseIdx (prefs : Window.Preferences) (store : Store)
    (program : List Statement) (k : Nat) (x : String) (e : Expr) (span : Option Span)
    (start next : Bindings) (printed : List Value) (v : Value)
    (seeded : store.bindings = .ok start) (declares : program[k]? = some (.declare x e span))
    (passed : Reaches prefs start program (k + 1) next printed) (value : next.get? x = some v)
    (unused : ∀ s ∈ program.eraseIdx k, x ∉ s.names)
    (unseen : (∀ s ∈ program, "Bin" ∉ s.value.functions) ∨ ∀ s, v = .series s → s.points = []) :
    let o := evaluate prefs store program
    let o' := evaluate prefs store (program.eraseIdx k)
    o'.printed = o.printed ∧
      Matched Eq (fun b b' => b'.toList = b.toList.filter fun entry => entry.1 != x)
        o.result o'.result := by
  intro o o'
  have arrived := passed.execute_eq
  cases passed with
  | @step _ b _ before _ _ reached at_k ran =>
    cases declares.symm.trans at_k
    obtain ⟨free, rfl, w, declared⟩ := Statement.execute_declare ran
    have erased : (program.eraseIdx k).drop k = program.drop (k + 1) := by
      rw [List.eraseIdx_eq_take_drop_succ]
      exact List.drop_left' (List.length_take_of_le (List.getElem?_eq_some_iff.mp at_k).1.le)
    -- the runs part at the declaration, and from there on they differ in its variable only
    have outcomes : (Correspondence.without x).Outcomes (execute prefs next (program.drop (k + 1)))
        (execute prefs b (program.drop (k + 1))) := by
      have parted := Correspondence.without_of_declared free declared
      refine Correspondence.run_without parted value ?_ ?_
      · exact fun s mem => unused s (List.mem_of_mem_drop (erased ▸ mem))
      · exact unseen.imp_left fun no_bin s mem => no_bin s (List.mem_of_mem_drop mem)
    have others := (reached.of_getElem?_eq fun j hj => List.getElem?_eraseIdx_of_lt hj).execute_eq
    have ran_whole : o = (execute prefs next (program.drop (k + 1))).after before := by
      simpa [o, evaluate, seeded] using arrived
    have ran_erased : o' = (execute prefs b (program.drop (k + 1))).after before := by
      simpa [o', evaluate, seeded, erased] using others
    rw [ran_whole, ran_erased]
    refine ⟨congrArg (before ++ ·) outcomes.printed_eq, outcomes.result.imp (fun e e' h => ?_) ?_⟩
    · rw [h]
      exact e.rename_id.symm
    · exact fun c c' bound => Correspondence.without_bindings_iff.mp bound

def wasteful : List Statement :=
  [.declare "spare" (.literal (.integer 1) none) none,
   .print (.call "Bin" [.reference "load" none, .literal (.reduction .count) none,
     .literal (.unit .month) none] none) none]

theorem evaluate_eraseIdx_wasteful :
    let store : Store := ⟨[("load", .ofPoints .numerical .newestFirst Window.leapNight)]⟩
    ∃ start next v, store.bindings = .ok start ∧ Reaches .default start wasteful 1 next [] ∧
      next.get? "spare" = some v ∧ (∀ s, v = .series s → s.points = []) ∧
      (evaluate .default store (wasteful.eraseIdx 0)).printed =
        (evaluate .default store wasteful).printed := by
  intro store
  have readable : ∀ entry ∈ store.streams, entry.2.Readable := by
    simp [store, PointStream.Readable, PointStream.ofPoints]
  obtain ⟨start, seeded, agrees⟩ := Store.bindings_of_readable readable
  have free : start.contains "spare" = false := agrees "spare"
  obtain ⟨next, declared, entries⟩ :=
    Bindings.declare?_of_not_contains free (Literal.integer 1).evaluate
  have ran : Statement.execute .default start (.declare "spare" (.literal (.integer 1) none) none) =
      .ok (next, []) := by
    simp [Statement.execute, free, Expr.evaluate, declared]
  have passed : Reaches .default start wasteful 1 next [] := .step .start rfl ran
  have value : next.get? "spare" = some (Literal.integer 1).evaluate := by
    rw [Bindings.get?_eq_some_iff, entries]
    simp
  have empty : ∀ s, (Literal.integer 1).evaluate = .series s → s.points = [] := by
    intro s h
    cases h
  refine ⟨start, next, _, seeded, passed, value, empty, ?_⟩
  exact (evaluate_eraseIdx .default store wasteful 0 "spare" _ none start next [] _ seeded rfl
    passed value (by decide) (.inr empty)).1

end Program

end SeriesScript
