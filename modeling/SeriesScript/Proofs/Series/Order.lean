import SeriesScript.Proofs.Series.Marks

/-!
# Points in order of time

A list of points whose marks are among those of an ascending list is ascending. Merging ascending
lists gives an ascending one, and the points of a stream are put in order.
-/
namespace SeriesScript

theorem Point.atMost_iff {p q : Point} :
    p.atMost q = true ↔ p.timestamp.instant ≤ q.timestamp.instant := decide_eq_true_iff

theorem Point.atMost_trans (p q r : Point) (h : p.atMost q = true) (h' : q.atMost r = true) :
    p.atMost r = true :=
  atMost_iff.mpr (Int.le_trans (atMost_iff.mp h) (atMost_iff.mp h'))

theorem Point.atMost_total (p q : Point) : (p.atMost q || q.atMost p) = true := by
  rw [Bool.or_eq_true, atMost_iff, atMost_iff]
  exact Int.le_total _ _

namespace Series

variable {points others : List Point}

/-- The points stand in order of time, those of one instant in any order. -/
def Ascending (points : List Point) : Prop :=
  points.Pairwise fun p q => p.timestamp.instant ≤ q.timestamp.instant

theorem ascending_iff_atMost : Ascending points ↔ points.Pairwise fun p q => p.atMost q = true := by
  simp only [Point.atMost_iff]
  rfl

theorem ascending_iff_marks :
    Ascending points ↔ (marks points).Pairwise fun a b => a.1.instant ≤ b.1.instant := by
  rw [marks, List.pairwise_map]
  rfl

theorem Ascending.of_marks_sublist (h : Ascending points)
    (sub : (marks others).Sublist (marks points)) : Ascending others :=
  ascending_iff_marks.mpr ((ascending_iff_marks.mp h).sublist sub)

theorem Ascending.dropWhile (h : Ascending points) (f : Point → Bool) :
    Ascending (points.dropWhile f) :=
  h.sublist (List.dropWhile_sublist f)

theorem Ascending.head_le {first p : Point} {rest : List Point} (h : Ascending (first :: rest))
    (mem : p ∈ first :: rest) : first.timestamp.instant ≤ p.timestamp.instant := by
  rcases List.mem_cons.mp mem with rfl | mem
  · exact Int.le_refl _
  · exact (List.pairwise_cons.mp h).1 p mem

theorem ascending_oldestFirst (points : List Point) : Ascending (oldestFirst points) :=
  ascending_iff_atMost.mpr
    (List.pairwise_mergeSort Point.atMost_trans Point.atMost_total points)

theorem ascending_merge {lists : List (List Point)} (h : ∀ points ∈ lists, Ascending points) :
    Ascending (merge lists) := by
  suffices ∀ merged, Ascending merged →
      Ascending (lists.foldl (fun merged points => merged.merge points Point.atMost) merged) from
    this [] .nil
  intro merged hm
  induction lists generalizing merged with
  | nil => exact hm
  | cons points rest ih =>
    have hp := h points List.mem_cons_self
    refine ih (fun q mem => h q (List.mem_cons_of_mem _ mem)) _ (ascending_iff_atMost.mpr ?_)
    exact List.pairwise_merge Point.atMost_trans Point.atMost_total _ _
      (ascending_iff_atMost.mp hm) (ascending_iff_atMost.mp hp)

end Series

end SeriesScript
