import SeriesScript.Proofs.Evaluation.Applications
import SeriesScript.Proofs.Evaluation.Inputs
import SeriesScript.Proofs.Window.Boundaries

/-!
# Where points come from

Operators and functions take the marks of their points from the series they are given. Only `Bin`
makes points of its own, right before the boundaries of its windows. So every point that a run
handles has the mark of a point of a stream, or it was made by `Bin`.
-/
namespace SeriesScript

variable {prefs : Window.Preferences} {hardStart : Option Timestamp} {b start : Bindings}
  {program : List Statement} {v : Value} {r : Series} {Q : Timestamp × String → Prop}

/-- A value that is no series, or a series all of whose marks are of some kind. -/
def Value.MarkedBy (Q : Timestamp × String → Prop) (v : Value) : Prop :=
  ∀ s, v = series s → ∀ m ∈ Series.marks s.points, Q m

/-- A boundary of the windows that a call of `Bin` asks for. -/
def Application.BinBoundary (prefs : Window.Preferences) (b : Bindings) (a : Application)
    (t : Timestamp) : Prop :=
  ∃ args data r window fallback, a = .function "Bin" args ∧
    Function.bin.prepare args = .ok (.bin data r window fallback) ∧
    Window.Boundary window prefs b.earliest? data.points t

def Program.BinBoundary (prefs : Window.Preferences) (start : Bindings) (program : List Statement)
    (t : Timestamp) : Prop :=
  ∃ k b printed s a, Reaches prefs start program k b printed ∧ program[k]? = some s ∧
    a ∈ s.applications prefs b ∧ a.BinBoundary prefs b t

open Series in
/-- A call that lays no windows takes all marks from its inputs. -/
theorem Invocation.perform_marks {invocation : Invocation}
    (inputs : ∀ s ∈ invocation.inputs, ∀ m ∈ marks s.points, Q m)
    (stamps : ∀ data r window fallback t, invocation = .bin data r window fallback →
      Window.Boundary window prefs hardStart data.points t → Q (prefs.stamp t, ""))
    (h : invocation.perform prefs hardStart = .ok r) : ∀ m ∈ marks r.points, Q m := by
  intro m mem
  rcases perform_eq_ok h with ⟨s, input, sub⟩ | merged | ⟨data, _, window, fallback, bins, rfl, laid,
    reduced⟩
  · exact inputs s input m (sub.subset mem)
  · rw [merged] at mem
    obtain ⟨p, hp, rfl⟩ := List.mem_map.mp mem
    obtain ⟨points, given, hp⟩ := mem_merge.mp hp
    obtain ⟨s, input, rfl⟩ := List.mem_map.mp given
    exact inputs s input _ (List.mem_map_of_mem hp)
  · rw [reduced] at mem
    obtain ⟨bin, hb, rfl⟩ := List.mem_map.mp ((marks_reduceAll _ fallback bins).subset mem)
    obtain ⟨boundary, here, stamped⟩ := Window.mark_of_mem_fixed laid hb
    rw [stamped]
    exact stamps data _ window fallback boundary rfl here

/-- Marks of a kind are kept, if those that `Bin` makes are of that kind. -/
theorem Application.keeps_markedBy {a : Application}
    (stamps : (∀ x ∈ a.operands, x.MarkedBy Q) →
      ∀ t, a.BinBoundary prefs b t → Q (prefs.stamp t, "")) :
    a.Keeps prefs b (Value.MarkedBy Q) := by
  rintro operands v given s rfl
  cases a with
  | operator op x y =>
    obtain ⟨t, f, kind, from_, rfl⟩ := Value.apply_eq_series given
    rw [Series.marks_mapValues]
    rcases from_ with rfl | rfl
    · exact operands _ (by simp [Application.operands]) t rfl
    · exact operands _ (by simp [Application.operands]) t rfl
  | function name args =>
    obtain ⟨f, invocation, r, called, prepared, performed, same⟩ := callFunction_eq_ok given
    cases same
    refine Invocation.perform_marks ?_ ?_ performed
    · intro t input
      exact operands _ (f.prepare_gives args invocation prepared t input) t rfl
    · rintro data red window fallback t rfl here
      apply stamps operands
      by_cases bin : f = .bin
      · subst bin
        cases Function.eq_bin_of_ofName? called
        exact ⟨args, data, red, window, fallback, rfl, prepared, here⟩
      · exact absurd rfl (f.prepare_gives_not_bin bin args _ prepared data red window fallback)

/-- A run keeps the marks of a kind, if those that `Bin` makes on the way are of that kind. -/
theorem Program.upholds_markedBy
    (stamps : ∀ t, BinBoundary prefs start program t → Q (prefs.stamp t, "")) :
    Upholds prefs start program (Value.MarkedBy Q) where
  literal l s hs := by cases l <;> cases hs
  application k b printed s reached at_k _ a mem :=
    Application.keeps_markedBy fun _ t here => stamps t ⟨k, b, printed, s, a, reached, at_k, mem, here⟩

/-! ## The streams -/

def Store.Marked (store : Store) (m : Timestamp × String) : Prop :=
  ∃ name s points p, (name, s) ∈ store.streams ∧ s.content = .ok points ∧ p ∈ points ∧ p.mark = m

theorem PointStream.mem_arrange {order : StreamOrder} {points : List Point} {p : Point} :
    p ∈ arrange order points ↔ p ∈ points := by
  cases order <;> simp [arrange, Series.oldestFirst]

theorem Store.bindings_markedBy {store : Store} (stored : ∀ m, store.Marked m → Q m)
    (h : store.bindings = .ok start) : start.All (Value.MarkedBy Q) := by
  refine bindings_all (fun entry mem data read => ?_) h
  rintro s ⟨⟩ m hm
  obtain ⟨points, content, rfl⟩ := entry.2.series_eq_ok read
  obtain ⟨p, hp, rfl⟩ := List.mem_map.mp hm
  exact stored _ ⟨entry.1, entry.2, points, p, mem, content, PointStream.mem_arrange.mp hp, rfl⟩

/-- Every point that a run handles has the timestamp and the label of a point of a stream, or it has
no label and stands one nanosecond before a boundary of bins, moved by the start of the day. In a
run of a program that does not call `Bin`, the points of the streams are the only origin. -/
theorem Program.handled_points_given (prefs : Window.Preferences) (store : Store)
    (program : List Statement) (start : Bindings) (seeded : store.bindings = .ok start) :
    (∀ s, Handles prefs start program (.series s) → ∀ p ∈ s.points,
      store.Marked (p.timestamp, p.label) ∨
        p.label = "" ∧ ∃ boundary, BinBoundary prefs start program boundary ∧
          p.timestamp = boundary.plus (prefs.startOfDay.nanos - 1)) ∧
    ((∀ s ∈ program, "Bin" ∉ s.value.functions) →
      ∀ s, Handles prefs start program (.series s) → ∀ p ∈ s.points,
        store.Marked (p.timestamp, p.label)) := by
  constructor
  · let Q (m : Timestamp × String) : Prop := store.Marked m ∨
      m.2 = "" ∧ ∃ boundary, BinBoundary prefs start program boundary ∧
        m.1 = boundary.plus (prefs.startOfDay.nanos - 1)
    have upheld : Upholds prefs start program (Value.MarkedBy Q) :=
      upholds_markedBy fun t here => .inr ⟨rfl, t, here, rfl⟩
    have all : start.All (Value.MarkedBy Q) := Store.bindings_markedBy (fun _ => .inl) seeded
    intro s handled p mem
    exact upheld.handles all handled s rfl p.mark (List.mem_map_of_mem mem)
  · intro no_bin s handled p mem
    have upheld : Upholds prefs start program (Value.MarkedBy store.Marked) := by
      apply upholds_markedBy
      rintro t ⟨k, b, printed, s, a, -, at_k, called, args, -, -, -, -, rfl, -, -⟩
      exact absurd (Statement.mem_functions called) (no_bin s (List.mem_of_getElem? at_k))
    have all := Store.bindings_markedBy (fun _ => id) seeded
    exact upheld.handles all handled s rfl p.mark (List.mem_map_of_mem mem)

def Program.monthlyCounts : List Statement :=
  [.print (.call "Bin" [.reference "load" none, .literal (.reduction .count) none,
    .literal (.unit .month) none] none) none]

/-- The points of a night have labels, so the count of their month is a point of its own. A script
that prints the points themselves makes none. -/
theorem Program.handled_points_given_monthlyCounts :
    let store : Store := ⟨[("load", .ofPoints .numerical .oldestFirst Window.leapNight)]⟩
    ∃ start, store.bindings = .ok start ∧
      (∃ s p, Handles .default start monthlyCounts (.series s) ∧ p ∈ s.points ∧
        ∃ boundary, BinBoundary .default start monthlyCounts boundary ∧
          p.timestamp = boundary.plus (-1)) ∧
      ∃ s, Handles .default start [.print (.reference "load" none) none] (.series s) ∧
        s.points ≠ [] ∧ ∀ p ∈ s.points, store.Marked (p.timestamp, p.label) := by
  intro store
  let data : Series := ⟨Window.leapNight, .numerical⟩
  have sorted : Series.oldestFirst Window.leapNight = Window.leapNight :=
    List.mergeSort_of_pairwise (by simp [Window.leapNight, Point.atMost, Timestamp.atMost])
  let start : Bindings := (Bindings.empty.declare? "load" (.series data)).getD .empty
  have seeded : store.bindings = .ok start := by
    simp [Store.bindings, Store.bindAll, store, PointStream.series, PointStream.ofPoints,
      PointStream.arrange, sorted, start, data]
  refine ⟨start, seeded, ?_, data, ?_⟩
  · have counted : (execute .default start monthlyCounts).printed.map
        (fun v => v.series?.map fun s => s.points.map Point.label) = [some [""]] := by
      decide +kernel
    obtain ⟨v, printed, hv⟩ := List.map_eq_singleton_iff.mp counted
    obtain ⟨s, hs, labels⟩ := Option.map_eq_some_iff.mp hv
    obtain ⟨p, points, unlabelled⟩ := List.map_eq_singleton_iff.mp labels
    have handled : Handles .default start monthlyCounts (.series s) := by
      apply handles_of_mem_printed
      cases v with
      | series t =>
        cases hs
        rw [printed]
        exact List.mem_singleton_self _
      | _ => cases hs
    have mem : p ∈ s.points := points ▸ List.mem_singleton_self p
    rcases (handled_points_given .default store monthlyCounts start seeded).1 s handled p mem with
      stored | ⟨-, boundary, here, stamped⟩
    · exfalso
      obtain ⟨name, stream, given, q, entry, content, hq, same⟩ := stored
      cases List.mem_singleton.mp entry
      cases content
      simp [Window.leapNight, Point.mark, unlabelled] at hq same
      rcases hq with rfl | rfl <;> simp at same
    · exact ⟨s, p, handled, mem, boundary, here, stamped⟩
  · let quiet : List Statement := [.print (.reference "load" none) none]
    have no_bin : ∀ s ∈ quiet, "Bin" ∉ s.value.functions := by
      simp [quiet, Statement.value, Expr.functions]
    have bound : ("load", .series data) ∈ start.toList := by
      have free : Bindings.empty.contains "load" = false := rfl
      obtain ⟨next, declared, entries⟩ := Bindings.declare?_of_not_contains free (.series data)
      simp [start, declared, entries]
    have handled : Handles .default start quiet (.series data) := .bound .start bound
    exact ⟨handled, List.cons_ne_nil _ _,
      (handled_points_given .default store quiet start seeded).2 no_bin data handled⟩

end SeriesScript
