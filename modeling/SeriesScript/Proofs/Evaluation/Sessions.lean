import Mathlib.Data.List.Induction
import SeriesScript.Proofs.Evaluation.Streams

/-!
# Sessions

A run changes nothing in a store but how often its streams were read, and no answer shows that. So
runs can be left out of a session, and every other step is answered as before. The names in the
store are those that were put in, by their first insertion, and behind a name stands the stream that
was put in last; it is disposed of by the steps that dispose of all streams, and by no others.
-/
namespace SeriesScript

namespace Session

variable {prefs : Window.Preferences} {store : Store} {name : String} {s t : PointStream}
  {steps : List Step} {step' : Step}

/-! ## Steps -/

namespace Step

def isRun : Step → Bool
  | run _ => true
  | runDefault _ => true
  | evaluate _ => true
  | _ => false

def inserted? : Step → Option String
  | insert name _ => some name
  | _ => none

end Step

theorem storeAfter_unread (checked : Bool) (store : Store) (source : String) :
    (storeAfter checked store source).unread = store.unread := by
  rw [storeAfter]
  split
  · rfl
  · split
    · split
      · exact Store.unread_afterRun store
      · rfl
    · exact Store.unread_afterRun store

theorem unread_of_isRun (prefs : Window.Preferences) (store : Store) (h : step'.isRun = true) :
    (step prefs store step').1.unread = store.unread := by
  cases step' with
  | run source | runDefault source => exact storeAfter_unread true store source
  | evaluate source => exact storeAfter_unread false store source
  | _ => cases h

theorem program_evaluate_unread (prefs : Window.Preferences) (store : Store) (program : Program) :
    program.evaluate prefs store.unread = program.evaluate prefs store := by
  rw [Program.evaluate, Program.evaluate, Store.bindings_unread]

theorem runScript_unread (prefs : Window.Preferences) (store : Store) (source : String) :
    runScript prefs store.unread source = runScript prefs store source := by
  simp only [runScript, Program.run, Store.names_unread, program_evaluate_unread]

theorem evaluateScript_unread (prefs : Window.Preferences) (store : Store) (source : String) :
    evaluateScript prefs store.unread source = evaluateScript prefs store source := by
  simp only [evaluateScript, program_evaluate_unread]

/-- No answer shows how often streams were read. -/
theorem answer_unread (prefs : Window.Preferences) (store : Store) (step' : Step) :
    (step prefs store.unread step').2 = (step prefs store step').2 := by
  cases step' with
  | insert name s => simp [step, Store.names_insert]
  | run source => exact congrArg Answer.outcome (runScript_unread prefs store source)
  | runDefault source => exact congrArg Answer.outcome (runScript_unread .default store source)
  | evaluate source => exact congrArg Answer.outcome (evaluateScript_unread prefs store source)
  | disposeAll => rfl
  | get name =>
    simp only [step, Store.get?_unread, Option.map_map]
    rfl
  | list => simp only [step, Store.names_unread]

theorem step_unread (prefs : Window.Preferences) (store : Store) (step' : Step) :
    (step prefs store.unread step').1.unread = (step prefs store step').1.unread := by
  by_cases h : step'.isRun = true
  · rw [unread_of_isRun _ _ h, unread_of_isRun _ _ h, Store.unread_unread]
  · cases step' with
    | insert name s => simp [step]
    | disposeAll => exact Store.unread_disposeAll store
    | get name | list => exact Store.unread_unread store
    | _ => exact absurd rfl h

theorem answers_cons (prefs : Window.Preferences) (store : Store) (step' : Step)
    (rest : List Step) :
    answers prefs store (step' :: rest) =
      (step prefs store step').2 :: answers prefs (step prefs store step').1 rest := rfl

theorem answers_unread (prefs : Window.Preferences) (store : Store) (steps : List Step) :
    answers prefs store.unread steps = answers prefs store steps := by
  induction steps generalizing store with
  | nil => rfl
  | cons s rest ih =>
    rw [answers_cons, answers_cons, answer_unread, ← ih (step prefs store.unread s).1, step_unread, ih]

/-! ## Leaving out runs -/

def without {α : Type} (out : Nat → Bool) : List α → List α
  | [] => []
  | a :: rest =>
    if out 0 then without (fun k => out (k + 1)) rest
    else a :: without (fun k => out (k + 1)) rest

/-- Without some of its runs, a session gives the answers that it gives, less those to the runs. -/
theorem answers_without (prefs : Window.Preferences) (store : Store) (steps : List Step)
    (out : Nat → Bool) (runs : ∀ k s, steps[k]? = some s → out k = true → s.isRun = true) :
    answers prefs store (without out steps) = without out (answers prefs store steps) := by
  induction steps generalizing store out with
  | nil => rfl
  | cons s rest ih =>
    have later := ih (step prefs store s).1 (fun k => out (k + 1))
      fun k t at_k => runs (k + 1) t (by simpa using at_k)
    simp only [without, answers_cons]
    split
    · rename_i left
      rw [← later, ← answers_unread, ← unread_of_isRun prefs store (runs 0 s rfl left),
        answers_unread]
    · rw [answers_cons, later]

/-! ## The store behind the steps -/

def storeBehind (prefs : Window.Preferences) (store : Store) (steps : List Step) : Store :=
  steps.foldl (fun store s => (step prefs store s).1) store

theorem answers_append (prefs : Window.Preferences) (store : Store) (before after : List Step) :
    answers prefs store (before ++ after) =
      answers prefs store before ++ answers prefs (storeBehind prefs store before) after := by
  induction before generalizing store with
  | nil => rfl
  | cons s rest ih =>
    rw [List.cons_append, answers_cons, answers_cons, List.cons_append, ih]
    rfl

theorem names_step (prefs : Window.Preferences) (store : Store) (step' : Step) :
    (step prefs store step').1.names =
      match step'.inserted? with
      | some name => if name ∈ store.names then store.names else store.names ++ [name]
      | none => store.names := by
  by_cases h : step'.isRun = true
  · have same := congrArg Store.names (unread_of_isRun prefs store h)
    rw [Store.names_unread, Store.names_unread] at same
    cases step' <;> first | exact same | cases h
  · cases step' with
    | insert name s => exact store.names_insert name s
    | disposeAll => exact store.names_disposeAll
    | get name | list => rfl
    | _ => exact absurd rfl h

def insertedNames (steps : List Step) : List String := steps.filterMap Step.inserted?

/-- The listed names are the inserted ones, each at the place of its first insertion. -/
structure ByFirstInsertion (names inserted : List String) : Prop where
  mem : ∀ name, name ∈ names ↔ name ∈ inserted
  order : names.Pairwise fun a b => inserted.idxOf a < inserted.idxOf b

theorem ByFirstInsertion.nodup {names inserted : List String} (h : ByFirstInsertion names inserted) :
    names.Nodup :=
  h.order.imp fun lt => fun he => Nat.lt_irrefl _ (he ▸ lt)

theorem ByFirstInsertion.insert {names inserted : List String}
    (h : ByFirstInsertion names inserted) (name : String) :
    ByFirstInsertion (if name ∈ names then names else names ++ [name]) (inserted ++ [name]) := by
  have order : names.Pairwise fun a b =>
      (inserted ++ [name]).idxOf a < (inserted ++ [name]).idxOf b := by
    refine List.Pairwise.imp_of_mem (fun {a b} ha hb lt => ?_) h.order
    rwa [List.idxOf_append_of_mem ((h.mem a).mp ha), List.idxOf_append_of_mem ((h.mem b).mp hb)]
  split
  · rename_i known
    refine ⟨fun other => ?_, order⟩
    rw [List.mem_append, List.mem_singleton, h.mem]
    exact ⟨.inl, fun mem => mem.elim id fun he => he ▸ (h.mem name).mp known⟩
  · rename_i new
    refine ⟨fun other => by simp [h.mem], List.pairwise_append.mpr ⟨order, by simp, ?_⟩⟩
    intro a ha b hb
    rw [List.mem_singleton.mp hb, List.idxOf_append_of_mem ((h.mem a).mp ha),
      List.idxOf_append_of_notMem (fun mem => new ((h.mem name).mpr mem))]
    exact Nat.lt_add_right _ (List.idxOf_lt_length_of_mem ((h.mem a).mp ha))

theorem names_storeBehind (prefs : Window.Preferences) (steps : List Step) :
    ByFirstInsertion (storeBehind prefs .empty steps).names (insertedNames steps) := by
  induction steps using List.reverseRecOn with
  | nil => exact ⟨fun name => Iff.rfl, .nil⟩
  | append_singleton steps s ih =>
    have behind : storeBehind prefs .empty (steps ++ [s]) =
        (step prefs (storeBehind prefs .empty steps) s).1 := List.foldl_append
    rw [behind, names_step, insertedNames, List.filterMap_append, ← insertedNames]
    cases hs : s.inserted? with
    | some name => simpa [List.filterMap_cons, hs] using ih.insert name
    | none => simpa [List.filterMap_cons, hs] using ih

/-! ## What becomes of a stream -/

/-- The stream goes on as `t`, disposed of if it takes effect and `disposing` was done. -/
structure Continues (s t : PointStream) (disposing : Prop) : Prop where
  kind : t.kind = s.kind
  order : t.order = s.order
  content : t.content = s.content
  disposable : t.disposable = s.disposable
  disposed : t.disposed = true ↔ s.disposed = true ∨ (s.disposable = true ∧ disposing)

theorem Continues.of_unread_eq {p : Prop} (h : t.unread = s.unread) (never : ¬p) :
    Continues s t p := by
  cases s
  cases t
  simp only [PointStream.unread, PointStream.mk.injEq] at h
  obtain ⟨rfl, rfl, rfl, rfl, rfl, -⟩ := h
  exact ⟨rfl, rfl, rfl, rfl, by simp [never]⟩

theorem Continues.trans {u : PointStream} {p q : Prop} (h : Continues s t p)
    (h' : Continues t u q) : Continues s u (p ∨ q) where
  kind := h'.kind.trans h.kind
  order := h'.order.trans h.order
  content := h'.content.trans h.content
  disposable := h'.disposable.trans h.disposable
  disposed := by
    rw [h'.disposed, h.disposed, h.disposable]
    tauto

/-- A step that does not replace a stream reads it or disposes of it, and changes nothing else. -/
theorem continues_step (prefs : Window.Preferences) (found : store.get? name = some s)
    (keeps : ∀ other, step' ≠ .insert name other) :
    ∃ t, (step prefs store step').1.get? name = some t ∧ Continues s t (step' = .disposeAll) := by
  by_cases h : step'.isRun = true
  · have same := congrArg (Store.get? · name)
      (unread_of_isRun prefs store h)
    simp only [Store.get?_unread, found, Option.map_some] at same
    obtain ⟨t, ht, unread⟩ := Option.map_eq_some_iff.mp same
    exact ⟨t, ht, .of_unread_eq unread (by rintro rfl; cases h)⟩
  · cases step' with
    | insert other t =>
      have ne : name ≠ other := by
        rintro rfl
        exact keeps t rfl
      refine ⟨s, ?_, .of_unread_eq rfl (by simp)⟩
      rw [← found]
      exact (store.get?_insert other name t).trans (if_neg ne)
    | disposeAll =>
      refine ⟨s.dispose, ?_, ⟨rfl, rfl, rfl, rfl, ?_⟩⟩
      · simp [step, found]
      · simp [PointStream.dispose, or_comm]
    | get _ | list => exact ⟨s, found, .of_unread_eq rfl (by simp)⟩
    | _ => exact absurd rfl h

theorem continues_storeBehind (prefs : Window.Preferences) (found : store.get? name = some s)
    (keeps : ∀ other, .insert name other ∉ steps) :
    ∃ t, (storeBehind prefs store steps).get? name = some t ∧
      Continues s t (.disposeAll ∈ steps) := by
  induction steps generalizing store s with
  | nil => exact ⟨s, found, .of_unread_eq rfl (by simp)⟩
  | cons first rest ih =>
    obtain ⟨t, ht, next⟩ := continues_step prefs found
      fun other he => keeps other (he ▸ List.mem_cons_self)
    obtain ⟨u, hu, later⟩ := ih ht fun other mem => keeps other (List.mem_cons_of_mem _ mem)
    refine ⟨u, hu, ?_⟩
    simpa only [List.mem_cons, eq_comm] using next.trans later

/-- Leaving out runs changes no other answer of a session. The store from which a step is answered
lists each name once, by its first insertion, and has under each name the stream that was put in
last, which is disposed of if it was so when it was put in, or takes disposal and all streams were
disposed of later. -/
theorem runs_leave_no_trace (prefs : Window.Preferences) :
    (∀ store steps out, (∀ k s, steps[k]? = some s → out k = true → s.isRun = true) →
      answers prefs store (without out steps) = without out (answers prefs store steps)) ∧
    ∀ steps,
      let store := storeBehind prefs .empty steps
      (∀ s, answers prefs .empty (steps ++ [s]) =
        answers prefs .empty steps ++ [(step prefs store s).2]) ∧
      store.names.Nodup ∧ ByFirstInsertion store.names (insertedNames steps) ∧
      ∀ before name stream later, steps = before ++ .insert name stream :: later →
        (∀ other, .insert name other ∉ later) →
        ∃ s, store.get? name = some s ∧ s.kind = stream.kind ∧ s.order = stream.order ∧
          (s.disposed = true ↔
            stream.disposed = true ∨ (stream.disposable = true ∧ .disposeAll ∈ later)) := by
  refine ⟨answers_without prefs, fun steps => ?_⟩
  have listed := names_storeBehind prefs steps
  refine ⟨fun s => answers_append prefs .empty steps [s], listed.nodup, listed, ?_⟩
  rintro before name stream later rfl latest
  have put : ((storeBehind prefs .empty before).insert name stream).get? name = some stream :=
    (Store.get?_insert _ name name stream).trans (if_pos rfl)
  obtain ⟨s, found, becomes⟩ := continues_storeBehind prefs put latest
  refine ⟨s, ?_, becomes.kind, becomes.order, becomes.disposed⟩
  rw [storeBehind, List.foldl_append]
  exact found

/-- A stream is run on, disposed of, and asked for after a run that it fails. -/
def disposedBetween : List Step :=
  [.insert "load" (.ofPoints .time .newestFirst []), .run "print(load)", .disposeAll,
    .evaluate "print(load)", .get "load"]

theorem runs_leave_no_trace_disposedBetween :
    let out : Nat → Bool := fun k => k == 1 || k == 3
    (∀ k s, disposedBetween[k]? = some s → out k = true → s.isRun = true) ∧
      answers .default .empty (without out disposedBetween) =
        without out (answers .default .empty disposedBetween) ∧
      ∃ s, (storeBehind .default .empty disposedBetween).get? "load" = some s ∧
        s.disposed = true := by
  intro out
  have runs : ∀ k s, disposedBetween[k]? = some s → out k = true → s.isRun = true := by
    intro k s at_k left
    have either : k = 1 ∨ k = 3 := by simpa [out] using left
    rcases either with rfl | rfl <;> cases at_k <;> rfl
  obtain ⟨transparent, behind⟩ := runs_leave_no_trace .default
  obtain ⟨-, -, -, stands⟩ := behind disposedBetween
  obtain ⟨s, found, -, -, disposed⟩ := stands [] "load" _ _ rfl (by simp)
  exact ⟨runs, transparent .empty disposedBetween out runs, s, found,
    disposed.mpr (.inr ⟨rfl, by simp⟩)⟩

end Session

end SeriesScript
