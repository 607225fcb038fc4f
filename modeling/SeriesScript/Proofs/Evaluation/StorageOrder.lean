import Mathlib.Data.List.Rotate
import SeriesScript.Proofs.Evaluation.Correspondence
import SeriesScript.Proofs.Scope.Runs
import SeriesScript.Proofs.Series.Stable

/-!
# The order in which points are stored

A run starts from the stable order of the points that its streams store. So as long as no two points
of a stream share an instant, it does not matter to a run in which order a stream stores them, nor
which order it announces.
-/
namespace SeriesScript

variable {prefs : Window.Preferences} {b start : Bindings} {s s' : PointStream} {name : String}
  {streams streams' : List (String × PointStream)}

/-- The points in the order in which they are taken up: as they are stored, or backwards if the
newest comes first. -/
def StreamOrder.delivered : StreamOrder → List Point → List Point
  | oldestFirst, points => points
  | newestFirst, points => points.reverse

namespace PointStream

theorem arrange_eq (order : StreamOrder) (points : List Point) :
    arrange order points = Series.oldestFirst (order.delivered points) := by
  cases order <;> rfl

theorem delivered_perm (order : StreamOrder) (points : List Point) :
    (order.delivered points).Perm points := by
  cases order with
  | oldestFirst => exact .refl points
  | newestFirst => exact List.reverse_perm points

/-- The same stream, but its points may be stored in another order, and either order announced. -/
structure Reshuffled (s s' : PointStream) : Prop where
  kind : s'.kind = s.kind
  disposed : s'.disposed = s.disposed
  content : Matched Eq List.Perm s'.content s.content

/-- If the stream can be read, no two of its points share an instant. -/
def DistinctInstants (s : PointStream) : Prop :=
  s.disposed = false → ∀ points, s.content = .ok points → Series.DistinctInstants points

theorem arrange_eq_of_perm {points points' : List Point} (distinct : Series.DistinctInstants points)
    (h : points'.Perm points) (order order' : StreamOrder) :
    arrange order' points' = arrange order points := by
  have apart : Series.DistinctInstants (order.delivered points) :=
    List.Pairwise.perm distinct (delivered_perm order points).symm Ne.symm
  rw [arrange_eq, arrange_eq]
  refine Series.oldestFirst_eq_of_perm apart ?_
  exact ((delivered_perm order' points').trans h).trans (delivered_perm order points).symm

theorem Reshuffled.series_eq (h : s.Reshuffled s') (distinct : s.DistinctInstants) (name : String) :
    s'.series name = s.series name := by
  rw [series, series, h.disposed]
  split
  · rfl
  · rename_i live
    have content := h.content
    rw [Bool.not_eq_true] at live
    have apart := distinct live
    generalize s.content = c, s'.content = c' at content apart
    cases content with
    | ok perm => simp only [arrange_eq_of_perm (apart _ rfl) perm s.order s'.order, h.kind]
    | @error e e' same =>
      subst same
      cases e <;> rfl

end PointStream

/-! ## The start of a run -/

namespace Store

theorem get?_bindAll_of_bound {v : Value} (bound : b.get? name = some v)
    (h : bindAll streams b = .ok start) : start.get? name = some v := by
  induction streams generalizing b with
  | nil =>
    cases h
    exact bound
  | cons entry rest ih =>
    obtain ⟨other, s⟩ := entry
    rw [bindAll] at h
    split at h
    · rename_i data _
      refine ih ?_ h
      cases hb : b.declare? other (.series data) with
      | none => exact bound
      | some next =>
        have ne : name ≠ other := by
          rintro rfl
          rw [Bindings.declare?_of_contains (Bindings.contains_iff.mpr ⟨v, bound⟩)] at hb
          cases hb
        exact (Bindings.get?_of_declare? hb ne).trans bound
    · cases h

/-- Under the name of a stream, a run starts with the series of that stream. -/
theorem get?_bindAll (free : b.contains name = false) (h : bindAll streams b = .ok start)
    (found : streams.lookup name = some s) :
    ∃ data, s.series name = .ok data ∧ start.get? name = some (.series data) := by
  induction streams generalizing b with
  | nil => cases found
  | cons entry rest ih =>
    obtain ⟨other, t⟩ := entry
    rw [bindAll] at h
    split at h
    · rename_i data read
      by_cases here : name = other
      · subst here
        simp only [List.lookup_cons_self, Option.some.injEq] at found
        subst found
        obtain ⟨next, declared, -⟩ := Bindings.declare?_of_not_contains free (.series data)
        rw [declared, Option.getD_some] at h
        exact ⟨data, read, get?_bindAll_of_bound (Bindings.get?_self_of_declare? declared) h⟩
      · have elsewhere : (name == other) = false := by simpa using here
        rw [List.lookup_cons, elsewhere] at found
        refine ih ?_ h found
        rw [Bindings.contains_declare?_getD, elsewhere, free]
        rfl
    · cases h

def Reshuffled (store store' : Store) : Prop :=
  List.Forall₂ (fun entry entry' => entry'.1 = entry.1 ∧ entry.2.Reshuffled entry'.2)
    store.streams store'.streams

theorem bindAll_reshuffled (h : List.Forall₂ (fun entry entry' => entry'.1 = entry.1 ∧
      entry.2.Reshuffled entry'.2) streams streams')
    (distinct : ∀ entry ∈ streams, entry.2.DistinctInstants) (b : Bindings) :
    bindAll streams' b = bindAll streams b := by
  induction h generalizing b with
  | nil => rfl
  | @cons entry entry' rest rest' head _ ih =>
    obtain ⟨name, s⟩ := entry
    obtain ⟨name', s'⟩ := entry'
    obtain ⟨rfl, reshuffled⟩ := head
    obtain ⟨first, others⟩ := List.forall_mem_cons.mp distinct
    simp only [bindAll, reshuffled.series_eq first, ih others]

theorem Reshuffled.names_eq {store store' : Store} (h : store.Reshuffled store') :
    store'.names = store.names := by
  rw [Reshuffled] at h
  rw [names, names]
  generalize store.streams = streams, store'.streams = streams' at h
  induction h with
  | nil => rfl
  | cons head _ ih => rw [List.map_cons, List.map_cons, head.1, ih]

end Store

/-- Under the name of each stream, a run starts with the stable order of the points as they are
delivered, which are sorted only if one of them is later than the next. If no stream that can be
read has two points of one instant, then a program runs alike, checked or not, from every store that
has the points of its streams in other orders. -/
theorem Program.evaluate_reshuffled (prefs : Window.Preferences) (store : Store) :
    (∀ start name s, store.bindings = .ok start → store.get? name = some s →
      ∃ points sorted, s.content = .ok points ∧
        start.get? name = some (.series ⟨sorted, s.kind⟩) ∧
        (∀ other, Series.StableSort (s.order.delivered points) other ↔ other = sorted) ∧
        sorted = if Series.descends (s.order.delivered points)
          then Series.oldestFirst (s.order.delivered points) else s.order.delivered points) ∧
    ∀ store', store.Reshuffled store' → (∀ entry ∈ store.streams, entry.2.DistinctInstants) →
      ∀ program, Program.run prefs store' program = Program.run prefs store program ∧
        Program.evaluate prefs store' program = Program.evaluate prefs store program := by
  constructor
  · intro start name s seeded found
    obtain ⟨data, read, bound⟩ := Store.get?_bindAll (b := .empty) rfl seeded found
    rw [PointStream.series] at read
    split at read
    · cases read
    · split at read <;> cases read
      rename_i points content
      rw [PointStream.arrange_eq] at bound
      exact ⟨points, _, content, bound, fun other => Series.stableSort_iff,
        Series.oldestFirst_eq_ite _⟩
  · intro store' reshuffled distinct
    have seeds : store'.bindings = store.bindings :=
      Store.bindAll_reshuffled reshuffled distinct .empty
    have evaluated (program : Program) :
        Program.evaluate prefs store' program = Program.evaluate prefs store program := by
      rw [Program.evaluate, Program.evaluate, seeds]
    refine fun program => ⟨?_, evaluated program⟩
    rw [Program.run, Program.run, reshuffled.names_eq, evaluated]

def PointStream.jumbled : List Point :=
  [⟨⟨300, 0⟩, .ofFloat 3, "c"⟩, ⟨⟨100, 3600⟩, .ofFloat 1, "a"⟩, ⟨⟨200, 0⟩, .ofFloat 2, "b"⟩]

/-- The points are stored in order of time, but announced to be newest first. -/
theorem Program.evaluate_reshuffled_jumbled :
    let store : Store := ⟨[("load", .ofPoints .numerical .oldestFirst PointStream.jumbled)]⟩
    let store' : Store :=
      ⟨[("load", .ofPoints .numerical .newestFirst (PointStream.jumbled.rotate 1))]⟩
    store.Reshuffled store' ∧ (∀ entry ∈ store.streams, entry.2.DistinctInstants) ∧
      ∀ program, Program.run .default store' program = Program.run .default store program := by
  intro store store'
  have reshuffled : store.Reshuffled store' :=
    .cons ⟨rfl, rfl, rfl, .ok (List.rotate_perm _ 1)⟩ .nil
  have distinct : ∀ entry ∈ store.streams, entry.2.DistinctInstants := by
    simp [store, PointStream.DistinctInstants, PointStream.ofPoints, PointStream.jumbled,
      Series.DistinctInstants]
  have alike := (evaluate_reshuffled .default store).2 store' reshuffled distinct
  exact ⟨reshuffled, distinct, fun program => (alike program).1⟩

end SeriesScript
