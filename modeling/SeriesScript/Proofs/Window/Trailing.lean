import Mathlib.Data.List.TakeWhile
import Mathlib.Data.Nat.Init
import SeriesScript.Proofs.Series.Order
import SeriesScript.Window.Bin

/-!
# The points of a trailing window

The window of a point holds the points less than one window length before it. Going through points
in order of time, each window starts where the one before it does or later, so the start is searched
from there on and nothing is read twice. The search stops at the point itself at the latest,
whatever the order of the points.
-/
namespace SeriesScript.Window

variable {window : Duration} {gone kept rest points : List Point} {p q r : Point} {start : Nat}

/-- Less than one window length before a point, or not before it at all. -/
def inReach (window : Duration) (p q : Point) : Bool :=
  p.timestamp.instant - q.timestamp.instant < window.nanos

theorem stillSeen_eq_dropWhile (window : Duration) (kept : List Point) (p : Point) :
    stillSeen window kept p = (kept ++ [p]).dropWhile fun q => !inReach window p q := by
  simp only [stillSeen, inReach, ← decide_not, Int.not_lt]

/-! ## By definition -/

def reached (window : Duration) (points : List Point) (i : Nat) (p : Point) : List Point :=
  (points.take (i + 1)).filter (inReach window p)

/-- Among points in order of time, those in reach stand behind the others. -/
theorem dropWhile_eq_filter_inReach (sorted : Series.Ascending points) (p : Point) :
    (points.dropWhile fun q => !inReach window p q) = points.filter (inReach window p) := by
  induction points with
  | nil => rfl
  | cons q rest ih =>
    obtain ⟨first, others⟩ := List.pairwise_cons.mp sorted
    by_cases seen : inReach window p q = true
    · have all : ∀ r ∈ rest, inReach window p r = true := fun r mem => by
        have := first r mem
        simp only [inReach, decide_eq_true_eq] at seen ⊢
        omega
      rw [List.dropWhile_cons_of_neg (by simp [seen]), List.filter_cons_of_pos seen,
        List.filter_eq_self.mpr all]
    · rw [List.dropWhile_cons_of_pos (by simp [seen]), List.filter_cons_of_neg seen, ih others]

/-- Points that are out of reach are so of everything later. -/
theorem outOfReach_of_le (later : p.timestamp.instant ≤ q.timestamp.instant)
    (out : inReach window p r = false) : inReach window q r = false := by
  simp only [inReach, decide_eq_false_iff_not] at out ⊢
  omega

/-- The points that were let go are out of reach, so what is still seen is all that is in reach. -/
theorem stillSeen_eq_filter (sorted : Series.Ascending (gone ++ kept ++ [p]))
    (passed : ∀ q ∈ gone, inReach window p q = false) :
    stillSeen window kept p = (gone ++ kept ++ [p]).filter (inReach window p) := by
  have near : Series.Ascending (kept ++ [p]) :=
    sorted.sublist (by rw [List.append_assoc]; exact List.sublist_append_right _ _)
  have none : gone.filter (inReach window p) = [] :=
    List.filter_eq_nil_iff.mpr fun q mem => by simp [passed q mem]
  rw [stillSeen_eq_dropWhile, dropWhile_eq_filter_inReach near, List.append_assoc,
    List.filter_append gone, none, List.nil_append]

theorem trailingFrom_eq_reached (gone kept : List Point)
    (sorted : Series.Ascending (gone ++ kept ++ rest))
    (passed : ∀ q ∈ gone, ∀ p ∈ rest, inReach window p q = false) :
    trailingFrom window kept rest = rest.mapIdx fun i p =>
      ⟨p.timestamp, p.label,
        reached window (gone ++ kept ++ rest) (i + (gone ++ kept).length) p⟩ := by
  induction rest generalizing gone kept with
  | nil => rfl
  | cons p rest ih =>
    let out := (kept ++ [p]).takeWhile fun q => !inReach window p q
    have read : gone ++ out ++ stillSeen window kept p = gone ++ kept ++ [p] := by
      rw [stillSeen_eq_dropWhile, List.append_assoc, List.takeWhile_append_dropWhile,
        List.append_assoc]
    have split : gone ++ kept ++ p :: rest = gone ++ kept ++ [p] ++ rest := by simp
    rw [split] at sorted ⊢
    have seen : stillSeen window kept p =
        reached window (gone ++ kept ++ [p] ++ rest) (gone ++ kept).length p := by
      rw [stillSeen_eq_filter (sorted.sublist (List.sublist_append_left _ _))
        fun q mem => passed q mem p List.mem_cons_self, reached,
        List.take_left' (by simp [Nat.add_assoc])]
    have passed' : ∀ q ∈ gone ++ out, ∀ r ∈ rest, inReach window r q = false := by
      intro q mem r behind
      rcases List.mem_append.mp mem with mem | mem
      · exact passed q mem r (List.mem_cons_of_mem _ behind)
      · have after : p.timestamp.instant ≤ r.timestamp.instant :=
          (List.pairwise_append.mp sorted).2.2 p (by simp) r behind
        exact outOfReach_of_le after (by simpa using List.mem_takeWhile_imp mem)
    rw [trailingFrom, ih _ _ (by rwa [read]) passed', List.mapIdx_cons, read, Nat.zero_add, seen]
    simp only [List.length_append, List.length_singleton, Nat.add_assoc, Nat.add_comm 1]

/-! ## By places -/

/-- The first place from `start` on whose point is in reach of `p`; `none` if there is none. -/
def seek? (window : Duration) (points : List Point) (p : Point) (start : Nat) : Option Nat :=
  if h : start < points.length then
    if window.nanos ≤ p.timestamp.instant - points[start].timestamp.instant then
      seek? window points p (start + 1)
    else some start
  else none
termination_by points.length - start

/-- The points from place `start` up to and including place `stop`; `none` if one of the places is
not there or they are the wrong way round. -/
def stretch? (points : List Point) (start stop : Nat) : Option (List Point) :=
  if start ≤ stop ∧ stop < points.length then some ((points.take (stop + 1)).drop start) else none

/-- The bins of the points from place `i` on, each with the place where its window starts. Every
start is searched from the one before it on, and `start` is the one before these. -/
def walk? (window : Duration) (points : List Point) (start i : Nat) : Option (List (Nat × Bin)) :=
  if h : i < points.length then do
    let place ← seek? window points points[i] start
    let parents ← stretch? points place i
    let others ← walk? window points place (i + 1)
    return (place, ⟨points[i].timestamp, points[i].label, parents⟩) :: others
  else some []
termination_by points.length - i

/-- The search for the start of a window ends at the point itself at the latest, and what is still
seen are the points from there on. -/
theorem seek?_spec (positive : 0 < window.nanos) (read rest : List Point) (p : Point)
    (h : start ≤ read.length) :
    ∃ place, seek? window (read ++ p :: rest) p start = some place ∧ place ≤ read.length ∧
      stillSeen window (read.drop start) p = (read ++ [p]).drop place := by
  induction h using Nat.decreasingInduction with
  | self =>
    refine ⟨read.length, ?_, le_rfl, ?_⟩
    · rw [seek?]
      simp [Int.not_le.mpr positive]
    · simpa [stillSeen] using positive
  | of_succ start before ih =>
    by_cases out : window.nanos ≤ p.timestamp.instant - read[start].timestamp.instant
    · obtain ⟨place, found, le, seen⟩ := ih
      refine ⟨place, ?_, le, ?_⟩
      · rw [seek?]
        simpa [before, out, Nat.lt_add_right] using found
      · rw [← seen, stillSeen, stillSeen, List.drop_eq_getElem_cons before, List.cons_append,
          List.dropWhile_cons_of_pos (by simpa using out)]
    · refine ⟨start, ?_, before.le, ?_⟩
      · rw [seek?]
        simp [before, out, Nat.lt_add_right]
      · rw [stillSeen, List.drop_append_of_le_length before.le, List.drop_eq_getElem_cons before,
          List.cons_append, List.dropWhile_cons_of_neg (by simpa using out)]

/-- No place is read that is not there: the walk comes to its end with the bins of the windows, and
no window starts behind its own point. -/
theorem walk?_spec (positive : 0 < window.nanos) (read rest : List Point)
    (h : start ≤ read.length) :
    ∃ walked, walk? window (read ++ rest) start read.length = some walked ∧
      walked.map Prod.snd = trailingFrom window (read.drop start) rest ∧
      ∀ i (hi : i < walked.length), walked[i].1 ≤ i + read.length := by
  induction rest generalizing read start with
  | nil => exact ⟨[], by rw [walk?]; simp, rfl, by simp⟩
  | cons p rest ih =>
    obtain ⟨place, found, le, seen⟩ := seek?_spec positive read rest p h
    have split : read ++ p :: rest = read ++ [p] ++ rest := by simp
    have next : place ≤ (read ++ [p]).length := le.trans (by simp)
    obtain ⟨walked, others, bins, bounds⟩ := ih (read ++ [p]) next
    rw [← split, List.length_append, List.length_singleton] at others
    have parents : stretch? (read ++ p :: rest) place read.length =
        some (stillSeen window (read.drop start) p) := by
      rw [stretch?, if_pos ⟨le, by simp⟩, seen, split, List.take_left' (by simp)]
    let bin : Bin := ⟨p.timestamp, p.label, stillSeen window (read.drop start) p⟩
    refine ⟨(place, bin) :: walked, ?_, ?_, ?_⟩
    · rw [walk?]
      simp [found, parents, others, bin]
    · rw [List.map_cons, bins, trailingFrom, ← seen]
    · rintro (_ | i) hi
      · simpa using le
      · have := bounds i (by simpa using hi)
        simp only [List.length_append, List.length_singleton] at this
        simp only [List.getElem_cons_succ]
        omega

/-- The window of each point holds the points up to it that are less than one window length before
it, if the points stand in order of time. In any order, the search by places succeeds with the same
bins, and no window starts behind its own point. -/
theorem trailing_windows (window : Duration) (positive : 0 < window.nanos) :
    (∀ points, Series.Ascending points →
      trailing window points = points.mapIdx fun i p =>
        ⟨p.timestamp, p.label, (points.take (i + 1)).filter fun q =>
          p.timestamp.instant - q.timestamp.instant < window.nanos⟩) ∧
    ∀ points, ∃ walked, walk? window points 0 0 = some walked ∧
      walked.map Prod.snd = trailing window points ∧
      ∀ i (hi : i < walked.length), walked[i].1 ≤ i := by
  constructor
  · intro points sorted
    exact trailingFrom_eq_reached [] [] sorted (by simp)
  · intro points
    exact walk?_spec positive [] points (Nat.le_refl 0)

/-- Two points at one instant, one exactly an hour after them and one a little later. -/
def hourly : List Point :=
  [⟨⟨0, 0⟩, .ofFloat 1, "a"⟩, ⟨⟨0, 7200⟩, .ofFloat 2, "b"⟩, ⟨⟨3600000000000, 0⟩, .ofFloat 3, "c"⟩,
    ⟨⟨3600000000001, 0⟩, .ofFloat 4, "d"⟩]

theorem trailing_windows_hourly :
    0 < Duration.hour.nanos ∧ Series.Ascending hourly ∧
      (trailing .hour hourly).map (fun bin => bin.parents.map (·.label)) =
        [["a"], ["a", "b"], ["c"], ["c", "d"]] := by
  have positive : 0 < Duration.hour.nanos := by decide
  have sorted : Series.Ascending hourly := by simp [Series.Ascending, hourly]
  refine ⟨positive, sorted, ?_⟩
  rw [(trailing_windows .hour positive).1 hourly sorted]
  decide +kernel

end SeriesScript.Window
