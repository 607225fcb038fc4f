import Mathlib.Data.List.Pairwise
import SeriesScript.Proofs.Series.Order

/-!
# The stable order of points

There is one way to put points in order of time that keeps the points of each instant in the order
in which they are given. Points without descents are in that order already, and where no two points
share an instant the order in which they are given does not matter.
-/
namespace SeriesScript.Series

variable {given sorted other points : List Point} {p : Point}

def simultaneous (instant : Int) (points : List Point) : List Point :=
  points.filter fun p => p.timestamp.instant == instant

/-- The given points in order of time, those of one instant in the order in which they are given. -/
structure StableSort (given sorted : List Point) : Prop where
  perm : sorted.Perm given
  ascending : Ascending sorted
  ties : ∀ instant, simultaneous instant sorted = simultaneous instant given

theorem mem_simultaneous {instant : Int} :
    p ∈ simultaneous instant points ↔ p ∈ points ∧ p.timestamp.instant = instant := by
  simp [simultaneous]

theorem simultaneous_cons_self (p : Point) (points : List Point) :
    simultaneous p.timestamp.instant (p :: points) =
      p :: simultaneous p.timestamp.instant points := by
  simp [simultaneous]

theorem simultaneous_cons_of_ne {instant : Int} (h : p.timestamp.instant ≠ instant)
    (points : List Point) : simultaneous instant (p :: points) = simultaneous instant points := by
  simp [simultaneous, h]

theorem simultaneous_append (instant : Int) (points others : List Point) :
    simultaneous instant (points ++ others) =
      simultaneous instant points ++ simultaneous instant others :=
  List.filter_append ..

theorem simultaneous_eq_nil {instant : Int} (h : ∀ p ∈ points, p.timestamp.instant ≠ instant) :
    simultaneous instant points = [] := by
  simpa [simultaneous] using h

theorem ascending_simultaneous (instant : Int) (points : List Point) :
    Ascending (simultaneous instant points) := by
  refine List.pairwise_of_forall_mem_list fun p hp q hq => Int.le_of_eq ?_
  rw [(mem_simultaneous.mp hp).2, (mem_simultaneous.mp hq).2]

theorem stableSort_oldestFirst (points : List Point) : StableSort points (oldestFirst points) where
  perm := List.mergeSort_perm points Point.atMost
  ascending := ascending_oldestFirst points
  ties instant := by
    have perm : (simultaneous instant (oldestFirst points)).Perm (simultaneous instant points) :=
      (List.mergeSort_perm points Point.atMost).filter _
    -- the points of one instant are in order already, so sorting keeps them as a sublist
    have kept : (simultaneous instant points).Sublist (oldestFirst points) :=
      List.sublist_mergeSort Point.atMost_trans Point.atMost_total
        (ascending_iff_atMost.mp (ascending_simultaneous instant points)) List.filter_sublist
    have within := kept.filter fun p => p.timestamp.instant == instant
    rw [simultaneous, List.filter_filter] at within
    simp only [Bool.and_self] at within
    exact (within.eq_of_length perm.length_eq.symm).symm

/-- Ascending lists with the same points at each instant, in the same order, are equal. -/
theorem eq_of_simultaneous_eq (hs : Ascending sorted) (ho : Ascending other)
    (same : ∀ instant, simultaneous instant sorted = simultaneous instant other) :
    sorted = other := by
  induction sorted generalizing other with
  | nil =>
    cases other with
    | nil => rfl
    | cons q rest =>
      have := same q.timestamp.instant
      rw [simultaneous_cons_self] at this
      cases this
  | cons p rest ih =>
    have at_p := same p.timestamp.instant
    rw [simultaneous_cons_self] at at_p
    have p_mem : p ∈ other := (mem_simultaneous.mp (at_p ▸ List.mem_cons_self)).1
    cases other with
    | nil => cases p_mem
    | cons q others =>
      have at_q := same q.timestamp.instant
      rw [simultaneous_cons_self] at at_q
      have q_mem : q ∈ p :: rest := (mem_simultaneous.mp (at_q ▸ List.mem_cons_self)).1
      have together : q.timestamp.instant = p.timestamp.instant :=
        Int.le_antisymm (ho.head_le p_mem) (hs.head_le q_mem)
      rw [← together, simultaneous_cons_self] at at_p
      obtain ⟨rfl, -⟩ := List.cons.inj at_p
      congr 1
      refine ih (List.Pairwise.of_cons hs) (List.Pairwise.of_cons ho) fun instant => ?_
      have whole := same instant
      simp only [simultaneous, List.filter_cons] at whole ⊢
      split at whole
      · exact (List.cons.inj whole).2
      · exact whole

/-- The stable order exists and is unique. -/
theorem stableSort_iff : StableSort given sorted ↔ sorted = oldestFirst given := by
  refine ⟨fun h => ?_, fun h => h ▸ stableSort_oldestFirst given⟩
  have stable := stableSort_oldestFirst given
  exact eq_of_simultaneous_eq h.ascending stable.ascending fun instant =>
    (h.ties instant).trans (stable.ties instant).symm

/-! ## Points that need no sorting -/

def descends : List Point → Bool
  | p :: q :: rest => !p.atMost q || descends (q :: rest)
  | _ => false

theorem ascending_of_descends_eq_false (h : descends points = false) : Ascending points := by
  induction points with
  | nil => exact .nil
  | cons p rest ih =>
    cases rest with
    | nil => exact List.pairwise_singleton _ _
    | cons q rest =>
      simp only [descends, Bool.or_eq_false_iff, Bool.not_eq_false', Point.atMost_iff] at h
      have later := ih h.2
      exact List.pairwise_cons.mpr ⟨fun r mem => Int.le_trans h.1 (later.head_le mem), later⟩

/-- Sorting only where a descent is seen gives the stable order, too. -/
theorem oldestFirst_eq_ite (points : List Point) :
    oldestFirst points = if descends points then oldestFirst points else points := by
  split
  · rfl
  · rename_i h
    exact List.mergeSort_of_pairwise
      (ascending_iff_atMost.mp (ascending_of_descends_eq_false (Bool.not_eq_true _ ▸ h)))

/-! ## Distinct instants -/

def DistinctInstants (points : List Point) : Prop :=
  points.Pairwise fun p q => p.timestamp.instant ≠ q.timestamp.instant

theorem DistinctInstants.simultaneous_eq (distinct : DistinctInstants given)
    (h : other.Perm given) (instant : Int) :
    simultaneous instant other = simultaneous instant given := by
  have perm : (simultaneous instant other).Perm (simultaneous instant given) := h.filter _
  have apart : DistinctInstants (simultaneous instant given) := distinct.sublist List.filter_sublist
  have same : ∀ p ∈ simultaneous instant given, p.timestamp.instant = instant :=
    fun p mem => (mem_simultaneous.mp mem).2
  generalize simultaneous instant given = tied at perm apart same
  match tied with
  | [] => exact perm.eq_nil
  | [p] => exact List.perm_singleton.mp perm
  | p :: q :: rest =>
    have ne := (List.pairwise_cons.mp apart).1 q List.mem_cons_self
    exact absurd ((same p (by simp)).trans (same q (by simp)).symm) ne

theorem oldestFirst_eq_of_perm (distinct : DistinctInstants given) (h : other.Perm given) :
    oldestFirst other = oldestFirst given := by
  have stable := stableSort_oldestFirst other
  exact stableSort_iff.mp
    ⟨stable.perm.trans h, stable.ascending, fun instant =>
      (stable.ties instant).trans (distinct.simultaneous_eq h instant)⟩

end SeriesScript.Series
