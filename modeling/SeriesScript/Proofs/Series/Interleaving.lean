import Mathlib.Algebra.GroupWithZero.Nat
import Mathlib.Data.List.Induction
import SeriesScript.Proofs.Series.Calls
import SeriesScript.Proofs.Series.Stable

/-!
# Merging takes the earliest point

Merged lists are drained from their heads: every time the earliest of their first points is taken,
and of several at one instant the one of the first list. The points of a list keep their order, so
each list can be read off the places where its points were taken. If all lists are in order of time,
their points are taken in the stable order of the joined lists.
-/
namespace SeriesScript.Series

variable {lists before after : List (List Point)} {points rest : List Point} {p q : Point}
  {taken : List (Nat × Point)}

/-- The points of some lists as they are taken, each with the number of its list. A point is taken
if it is earlier than the first points of the lists before its own and no later than those behind.
-/
inductive Drains : List (List Point) → List (Nat × Point) → Prop
  | empty {lists : List (List Point)} (drained : ∀ points ∈ lists, points = []) : Drains lists []
  | take {before after : List (List Point)} {p : Point} {rest : List Point}
      {taken : List (Nat × Point)}
      (first : ∀ q points, (q :: points) ∈ before → p.timestamp.instant < q.timestamp.instant)
      (least : ∀ q points, (q :: points) ∈ after → p.timestamp.instant ≤ q.timestamp.instant)
      (remaining : Drains (before ++ rest :: after) taken) :
      Drains (before ++ (p :: rest) :: after) ((before.length, p) :: taken)

/-- Points with the numbers of their lists are merged by their instants alone. -/
def takenFirst (a b : Nat × Point) : Bool := a.2.atMost b.2

theorem map_snd_merge (a b : List (Nat × Point)) :
    (a.merge b takenFirst).map Prod.snd = (a.map Prod.snd).merge (b.map Prod.snd) Point.atMost :=
  List.map_merge fun _ _ _ _ => rfl

/-- The last list is drawn on only while its first point is earlier than all others. -/
theorem Drains.take_last (later : ∀ q points, (q :: points) ∈ lists →
      p.timestamp.instant < q.timestamp.instant)
    (remaining : Drains (lists ++ [rest]) taken) :
    Drains (lists ++ [p :: rest]) ((lists.length, p) :: taken) :=
  .take later (by simp) remaining

theorem drains_behind_empty (drained : ∀ points ∈ lists, points = []) (points : List Point) :
    Drains (lists ++ [points]) (points.map (lists.length, ·)) := by
  induction points with
  | nil =>
    apply Drains.empty
    simpa [or_imp, forall_and] using drained
  | cons p rest ih =>
    apply Drains.take_last _ ih
    intro q points mem
    cases drained _ mem

/-- One more list behind the others takes part by an ordinary merge. -/
theorem Drains.merge (h : Drains lists taken) (points : List Point) :
    Drains (lists ++ [points]) (taken.merge (points.map (lists.length, ·)) takenFirst) := by
  induction h generalizing points with
  | empty drained =>
    rw [List.nil_merge]
    exact drains_behind_empty drained points
  | @take before after p rest taken first least remaining ih =>
    have size : (before ++ rest :: after).length = (before ++ (p :: rest) :: after).length := by
      simp
    rw [size] at ih
    induction points with
    | nil =>
      have whole := ih []
      rw [List.map_nil, List.merge_right] at whole ⊢
      rw [List.append_assoc, List.cons_append] at whole ⊢
      apply Drains.take first _ whole
      simpa [or_imp, forall_and] using least
    | cons q points inner =>
      rw [List.map_cons, List.cons_merge_cons]
      by_cases h : takenFirst (before.length, p) ((before ++ (p :: rest) :: after).length, q) = true
      · have whole := ih (q :: points)
        rw [if_pos h, List.append_assoc, List.cons_append]
        rw [List.append_assoc, List.cons_append] at whole
        apply Drains.take first _ whole
        have earlier : p.timestamp.instant ≤ q.timestamp.instant := Point.atMost_iff.mp h
        simp only [List.mem_append, List.mem_singleton, List.cons.injEq]
        rintro r others (mem | ⟨rfl, -⟩)
        · exact least r others mem
        · exact earlier
      · rw [if_neg h]
        apply Drains.take_last _ inner
        have earlier : q.timestamp.instant < p.timestamp.instant := by
          simpa [takenFirst, Point.atMost_iff] using h
        simp only [List.mem_append, List.mem_cons, List.cons.injEq]
        rintro r others (mem | ⟨rfl, -⟩ | mem)
        · exact Int.lt_trans earlier (first r others mem)
        · exact earlier
        · exact Int.lt_of_lt_of_le earlier (least r others mem)

theorem exists_drains (lists : List (List Point)) :
    ∃ taken, Drains lists taken ∧ taken.map Prod.snd = merge lists := by
  induction lists using List.reverseRecOn with
  | nil => exact ⟨[], .empty (by simp), rfl⟩
  | append_singleton lists points ih =>
    obtain ⟨taken, drains, same⟩ := ih
    refine ⟨_, drains.merge points, ?_⟩
    rw [map_snd_merge, same]
    simp [merge, Function.comp_def]

/-! ## What is taken -/

theorem Drains.filter_eq (h : Drains lists taken) (i : Nat) :
    (taken.filter fun t => t.1 == i).map Prod.snd = lists.getD i [] := by
  induction h with
  | @empty lists drained =>
    by_cases inside : i < lists.length
    · simp [inside, drained lists[i] (List.getElem_mem inside)]
    · simp [Nat.le_of_not_lt inside]
  | @take before after p rest taken _ _ _ ih =>
    rw [List.getD_eq_getElem?_getD] at ih ⊢
    by_cases here : before.length = i
    · subst here
      simp at ih
      simp [ih]
    · have elsewhere : (before ++ (p :: rest) :: after)[i]? = (before ++ rest :: after)[i]? := by
        grind
      simp [here, ih, elsewhere]

theorem Drains.perm (h : Drains lists taken) : (taken.map Prod.snd).Perm lists.flatten := by
  induction h with
  | empty drained => simp [List.flatten_eq_nil_iff.mpr drained]
  | take _ _ _ ih =>
    rw [List.map_cons, List.flatten_append, List.flatten_cons]
    rw [List.flatten_append, List.flatten_cons] at ih
    exact (ih.cons _).trans List.perm_middle.symm

/-- Points of one instant are taken in the order of their lists, if these are in order of time. -/
theorem Drains.simultaneous_eq (h : Drains lists taken)
    (sorted : ∀ points ∈ lists, Ascending points) (instant : Int) :
    simultaneous instant (taken.map Prod.snd) = simultaneous instant lists.flatten := by
  induction h with
  | empty drained => simp [List.flatten_eq_nil_iff.mpr drained]
  | @take before after p rest taken first _ _ ih =>
    have left : ∀ points ∈ before ++ rest :: after, Ascending points := by
      simp only [List.forall_mem_append, List.forall_mem_cons] at sorted ⊢
      exact ⟨sorted.1, List.Pairwise.of_cons sorted.2.1, sorted.2.2⟩
    have same := ih left
    rw [List.map_cons]
    simp only [List.flatten_append, List.flatten_cons, simultaneous_append] at same ⊢
    by_cases here : p.timestamp.instant = instant
    · subst here
      -- the lists before have no point of the instant, since their first points are later
      have later : simultaneous p.timestamp.instant before.flatten = [] := by
        apply simultaneous_eq_nil
        intro q mem
        obtain ⟨points, here, inside⟩ := List.mem_flatten.mp mem
        cases points with
        | nil => cases inside
        | cons r others =>
          have ordered := (sorted (r :: others) (by simp [here])).head_le inside
          have := first r others here
          omega
      rw [later, List.nil_append] at same ⊢
      rw [simultaneous_cons_self, simultaneous_cons_self, same, List.cons_append]
    · rw [simultaneous_cons_of_ne here, simultaneous_cons_of_ne here, same]

/-- Merging lists in order of time sorts their points, those of one instant in the order of the
lists. -/
theorem stableSort_merge (sorted : ∀ points ∈ lists, Ascending points) :
    StableSort lists.flatten (merge lists) := by
  obtain ⟨taken, drains, same⟩ := exists_drains lists
  exact
    { perm := same ▸ drains.perm
      ascending := ascending_merge sorted
      ties := same ▸ drains.simultaneous_eq sorted }

/-- Merging two or more series of one kind gives a series of that kind, made of all their points.
The points of each series are taken in their order; if all series are in order of time, the result
is the stable sort of their points, series after series. -/
theorem merge_interleaves_stably (prefs : Window.Preferences) (hardStart : Option Timestamp)
    (kind : Kind) (inputs : List Series) (several : 2 ≤ inputs.length)
    (alike : ∀ s ∈ inputs, s.kind = kind) :
    ∃ merged, callFunction prefs hardStart "Merge" (inputs.map Value.series) =
        .ok (.series ⟨merged, kind⟩) ∧
      merged.length = (inputs.map fun s => s.points.length).sum ∧
      (∃ taken : List (Nat × Point), taken.map Prod.snd = merged ∧
        (∀ t ∈ taken, t.1 < inputs.length) ∧
        ∀ i (hi : i < inputs.length),
          (taken.filter fun t => t.1 == i).map Prod.snd = inputs[i].points) ∧
      ((∀ s ∈ inputs, Ascending s.points) →
        ∀ sorted, StableSort (inputs.flatMap Series.points) sorted ↔ sorted = merged) := by
  obtain ⟨taken, drains, same⟩ := exists_drains (inputs.map Series.points)
  refine ⟨merge (inputs.map Series.points), ?_, ?_, ⟨taken, same, ?_, ?_⟩, ?_⟩
  · exact callFunction_of_prepare (f := .merge) rfl (Function.prepare_merge several alike) rfl
  · rw [← same, drains.perm.length_eq, List.length_flatten, List.map_map]
    rfl
  · intro t mem
    by_contra beyond
    have none_beyond : (taken.filter fun u => u.1 == t.1).map Prod.snd = [] := by
      simpa [Nat.le_of_not_lt beyond] using drains.filter_eq t.1
    rw [List.map_eq_nil_iff, List.filter_eq_nil_iff] at none_beyond
    exact none_beyond t mem (by simp)
  · intro i hi
    simpa [hi] using drains.filter_eq i
  · intro ascending sorted
    have stable : StableSort (inputs.flatMap Series.points) (merge (inputs.map Series.points)) :=
      stableSort_merge (by simpa using ascending)
    rw [stableSort_iff, stableSort_iff.mp stable]

def tied : List Series :=
  [⟨[⟨⟨1, 0⟩, .ofFloat 1, "a"⟩, ⟨⟨3, 0⟩, .ofFloat 2, "b"⟩], .time⟩, ⟨[], .time⟩,
    ⟨[⟨⟨1, 3600⟩, .ofFloat 3, "c"⟩, ⟨⟨2, 0⟩, .ofFloat 4, "d"⟩], .time⟩]

theorem merge_interleaves_stably_tied :
    2 ≤ tied.length ∧ (∀ s ∈ tied, s.kind = .time) ∧ (∀ s ∈ tied, Ascending s.points) ∧
      ∃ merged, callFunction .default none "Merge" (tied.map Value.series) =
          .ok (.series ⟨merged, .time⟩) ∧
        merged.length = 4 ∧ StableSort (tied.flatMap Series.points) merged := by
  have several : 2 ≤ tied.length := by decide
  have alike : ∀ s ∈ tied, s.kind = .time := by simp [tied]
  have ascending : ∀ s ∈ tied, Ascending s.points := by simp [tied, Ascending]
  obtain ⟨merged, called, size, -, stable⟩ :=
    merge_interleaves_stably .default none .time tied several alike
  exact ⟨several, alike, ascending, merged, called, size, (stable ascending merged).mpr rfl⟩

end SeriesScript.Series
