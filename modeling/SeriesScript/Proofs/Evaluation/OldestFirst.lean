import SeriesScript.Proofs.Evaluation.Handled
import SeriesScript.Proofs.Evaluation.Inputs
import SeriesScript.Proofs.Scope.Runs
import SeriesScript.Proofs.Window.Partition

/-!
# Every series is oldest first

Streams are put in order of time before a run starts, and every operator and function keeps that
order, so each series that a run handles is ascending. The earliest of the first points of the bound
series is therefore the earliest of all their points.
-/
namespace SeriesScript

variable {prefs : Window.Preferences} {hardStart : Option Timestamp} {b start : Bindings}
  {v : Value} {r : Series}

/-- A value that is no series, or a series in order of time. -/
def Value.OldestFirst (v : Value) : Prop := ∀ s, v = series s → Series.Ascending s.points

open Series in
theorem Invocation.perform_ascending {invocation : Invocation}
    (inputs : ∀ s ∈ invocation.inputs, Ascending s.points)
    (h : invocation.perform prefs hardStart = .ok r) : Ascending r.points := by
  rcases perform_eq_ok h with ⟨s, mem, sub⟩ | merged | ⟨data, _, _, fallback, bins, -, laid, reduced⟩
  · exact (inputs s mem).of_marks_sublist sub
  · rw [merged]
    apply ascending_merge
    intro points mem
    obtain ⟨s, hs, rfl⟩ := List.mem_map.mp mem
    exact inputs s hs
  · rw [reduced, ascending_iff_marks]
    exact (Window.fixed_marks_pairwise laid).sublist (marks_reduceAll _ fallback bins)

theorem callFunction_oldestFirst {name : String} {args : List Value}
    (operands : ∀ x ∈ args, x.OldestFirst) (h : callFunction prefs hardStart name args = .ok v) :
    v.OldestFirst := by
  obtain ⟨f, invocation, r, -, prepared, performed, rfl⟩ := callFunction_eq_ok h
  rintro s ⟨⟩
  refine invocation.perform_ascending (fun s mem => ?_) performed
  exact operands _ (f.prepare_gives args invocation prepared s mem) s rfl

theorem Value.OldestFirst.invariant (prefs : Window.Preferences) :
    Value.Invariant prefs Value.OldestFirst where
  literal l s hs := by cases l <;> cases hs
  operator op x y v hx hy h s hs := by
    subst hs
    obtain ⟨t, f, kind, from_, rfl⟩ := Value.apply_eq_series h
    have ht : Series.Ascending t.points := by
      rcases from_ with rfl | rfl
      · exact hx t rfl
      · exact hy t rfl
    exact ht.of_marks_sublist (by rw [Series.marks_mapValues])
  function hardStart name args v operands h := callFunction_oldestFirst operands h

/-! ## The start of a run -/

theorem PointStream.series_ascending {s : PointStream} {name : String}
    (h : s.series name = .ok r) : Series.Ascending r.points := by
  obtain ⟨points, -, rfl⟩ := series_eq_ok h
  cases s.order with
  | oldestFirst => exact Series.ascending_oldestFirst points
  | newestFirst => exact Series.ascending_oldestFirst points.reverse

theorem Store.bindings_oldestFirst {store : Store} (h : store.bindings = .ok start) :
    start.All Value.OldestFirst := by
  refine bindings_all (fun entry _ data read => ?_) h
  rintro s ⟨⟩
  exact entry.2.series_ascending read

/-! ## The earliest time of the bound series -/

namespace Bindings

def points (b : Bindings) : List Point :=
  b.toList.flatMap fun entry => (entry.2.series?.map Series.points).getD []

theorem mem_points {p : Point} :
    p ∈ b.points ↔ ∃ name s, (name, .series s) ∈ b.toList ∧ p ∈ s.points := by
  rw [points, List.mem_flatMap]
  constructor
  · rintro ⟨⟨name, v⟩, mem, hp⟩
    cases v with
    | series s => exact ⟨name, s, mem, hp⟩
    | _ => cases hp
  · rintro ⟨name, s, mem, hp⟩
    exact ⟨_, mem, hp⟩

def firstTimes (b : Bindings) : List Timestamp :=
  b.toList.filterMap fun entry => entry.2.series?.bind Series.earliest?

theorem mem_firstTimes {t : Timestamp} :
    t ∈ b.firstTimes ↔ ∃ name s p rest, (name, .series s) ∈ b.toList ∧ s.points = p :: rest ∧
      p.timestamp = t := by
  rw [firstTimes, List.mem_filterMap]
  constructor
  · rintro ⟨⟨name, v⟩, mem, ht⟩
    cases v with
    | series s =>
      obtain ⟨p, hp, rfl⟩ := Option.map_eq_some_iff.mp ht
      obtain ⟨rest, hr⟩ := List.head?_eq_some_iff.mp hp
      exact ⟨name, s, p, rest, mem, hr, rfl⟩
    | _ => cases ht
  · rintro ⟨name, s, p, rest, mem, hs, rfl⟩
    refine ⟨_, mem, ?_⟩
    simp [Value.series?, Series.earliest?, hs]

theorem foldl_earlier (first : Timestamp) (rest : List Timestamp) :
    rest.foldl Timestamp.earlier first ∈ first :: rest ∧
      ∀ t ∈ first :: rest, (rest.foldl Timestamp.earlier first).instant ≤ t.instant := by
  induction rest generalizing first with
  | nil => simp
  | cons second rest ih =>
    obtain ⟨mem, least⟩ := ih (first.earlier second)
    have either : first.earlier second = first ∨ first.earlier second = second := by
      rw [Timestamp.earlier]
      split
      · exact .inl rfl
      · exact .inr rfl
    have below := least _ List.mem_cons_self
    rw [Timestamp.earlier_instant, le_min_iff] at below
    rw [List.foldl_cons]
    constructor
    · rcases List.mem_cons.mp mem with h | h
      · rw [h]
        rcases either with h | h <;> simp [h]
      · simp [h]
    · intro t ht
      simp only [List.mem_cons] at ht
      rcases ht with rfl | rfl | ht
      · exact below.1
      · exact below.2
      · exact least t (List.mem_cons_of_mem _ ht)

theorem earliest?_of_firstTimes_nil (h : b.firstTimes = []) : b.earliest? = none := by
  rw [firstTimes] at h
  rw [earliest?, h]

theorem earliest?_of_firstTimes_cons {first : Timestamp} {rest : List Timestamp}
    (h : b.firstTimes = first :: rest) :
    b.earliest? = some (rest.foldl Timestamp.earlier first) := by
  rw [firstTimes] at h
  rw [earliest?, h]

theorem earliest?_mem_firstTimes {t : Timestamp} (h : b.earliest? = some t) :
    t ∈ b.firstTimes ∧ ∀ u ∈ b.firstTimes, t.instant ≤ u.instant := by
  cases times : b.firstTimes with
  | nil =>
    rw [earliest?_of_firstTimes_nil times] at h
    cases h
  | cons first rest =>
    rw [earliest?_of_firstTimes_cons times] at h
    cases h
    exact foldl_earlier first rest

theorem earliest?_eq_none_iff : b.earliest? = none ↔ b.firstTimes = [] := by
  cases times : b.firstTimes with
  | nil => simp [earliest?_of_firstTimes_nil times]
  | cons first rest => simp [earliest?_of_firstTimes_cons times]

theorem firstTimes_eq_nil_iff : b.firstTimes = [] ↔ b.points = [] := by
  rw [List.eq_nil_iff_forall_not_mem, List.eq_nil_iff_forall_not_mem]
  constructor
  · intro h p hp
    obtain ⟨name, s, mem, hp⟩ := mem_points.mp hp
    obtain ⟨q, rest, hs⟩ := List.exists_cons_of_ne_nil (List.ne_nil_of_mem hp)
    exact h q.timestamp (mem_firstTimes.mpr ⟨name, s, q, rest, mem, hs, rfl⟩)
  · intro h t ht
    obtain ⟨name, s, p, rest, mem, hs, -⟩ := mem_firstTimes.mp ht
    exact h p (mem_points.mpr ⟨name, s, mem, by rw [hs]; exact List.mem_cons_self⟩)

/-- While every bound series is oldest first, the earliest of their first points is the earliest of
all their points. -/
theorem earliest?_le (all : b.All Value.OldestFirst) {t : Timestamp} (h : b.earliest? = some t) :
    (∃ p ∈ b.points, p.timestamp = t) ∧ ∀ p ∈ b.points, t.instant ≤ p.timestamp.instant := by
  obtain ⟨mem, least⟩ := earliest?_mem_firstTimes h
  constructor
  · obtain ⟨name, s, p, rest, mem, hs, ht⟩ := mem_firstTimes.mp mem
    exact ⟨p, mem_points.mpr ⟨name, s, mem, by rw [hs]; exact List.mem_cons_self⟩, ht⟩
  · intro p hp
    obtain ⟨name, s, mem, hp⟩ := mem_points.mp hp
    obtain ⟨q, rest, hs⟩ := List.exists_cons_of_ne_nil (List.ne_nil_of_mem hp)
    have ascending := all name _ mem s rfl
    rw [hs] at ascending hp
    exact (least _ (mem_firstTimes.mpr ⟨name, s, q, rest, mem, hs, rfl⟩)).trans (ascending.head_le hp)

end Bindings

/-- Whatever a run from a store handles is oldest first, and wherever the run arrives, the earliest
of the first points of the bound series is the earliest of all points that are bound. -/
theorem Program.handled_series_ascending (prefs : Window.Preferences) (store : Store)
    (program : List Statement) (start : Bindings) (seeded : store.bindings = .ok start) :
    (∀ s, Handles prefs start program (.series s) → Series.Ascending s.points) ∧
    ∀ k b printed, Reaches prefs start program k b printed →
      (b.earliest? = none ↔ b.points = []) ∧
      ∀ t, b.earliest? = some t →
        (∃ p ∈ b.points, p.timestamp = t) ∧ ∀ p ∈ b.points, t.instant ≤ p.timestamp.instant := by
  have all := Store.bindings_oldestFirst seeded
  have inv := Value.OldestFirst.invariant prefs
  refine ⟨fun s handled => inv.handles all handled s rfl, fun k b printed reached => ?_⟩
  refine ⟨Bindings.earliest?_eq_none_iff.trans Bindings.firstTimes_eq_nil_iff, fun t ht => ?_⟩
  exact Bindings.earliest?_le (inv.reaches all reached).1 ht

/-- The points of a night, stored backwards, are handled in order by a script that prints them. -/
theorem Program.handled_series_ascending_backwards :
    ∃ start s, Store.bindings
        ⟨[("load", .ofPoints .numerical .oldestFirst Window.leapNight.reverse)]⟩ = .ok start ∧
      Handles .default start [.print (.reference "load" none) none] (.series s) ∧
      s.points = Series.oldestFirst Window.leapNight.reverse ∧ Series.Ascending s.points := by
  let s : Series := ⟨Series.oldestFirst Window.leapNight.reverse, .numerical⟩
  have free : Bindings.empty.contains "load" = false := rfl
  obtain ⟨start, bound, entries⟩ := Bindings.declare?_of_not_contains free (.series s)
  have seeded : Store.bindings
      ⟨[("load", .ofPoints .numerical .oldestFirst Window.leapNight.reverse)]⟩ = .ok start := by
    change Except.ok ((Bindings.empty.declare? "load" (.series s)).getD .empty) = _
    rw [bound]
    rfl
  have handled : Handles .default start [.print (.reference "load" none) none] (.series s) :=
    .bound .start (by rw [entries]; exact List.mem_append_right _ (List.mem_singleton_self _))
  exact ⟨start, s, seeded, handled, rfl,
    (handled_series_ascending .default _ _ start seeded).1 s handled⟩

end SeriesScript
