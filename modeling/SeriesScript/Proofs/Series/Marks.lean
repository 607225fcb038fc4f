import SeriesScript.Function

/-!
# Marks of points

The mark of a point is its timestamp with its label. Functions on series give points new values and
leave some out, but the marks that remain are marks of the given points, in their order.
-/
namespace SeriesScript

def Point.mark (p : Point) : Timestamp × String := (p.timestamp, p.label)

@[simp] theorem Point.mark_withValue (p : Point) (x : Number) : (p.withValue x).mark = p.mark := rfl

def Bin.mark (bin : Bin) : Timestamp × String := (bin.timestamp, bin.label)

namespace Series

variable {points : List Point}

def marks (points : List Point) : List (Timestamp × String) := points.map Point.mark

@[simp] theorem marks_cons (p : Point) (points : List Point) :
    marks (p :: points) = p.mark :: marks points := rfl

@[simp] theorem marks_mapValues (s : Series) (f : Number → Number) (kind : Kind) :
    marks (s.mapValues f kind).points = marks s.points := by
  simp [marks, mapValues]

theorem marks_differences (previous : Number) (points : List Point) :
    marks (differences previous points) = marks points := by
  induction points generalizing previous with
  | nil => rfl
  | cons p rest ih => rw [differences, marks_cons, ih, Point.mark_withValue, marks_cons]

theorem marks_runningSums (sum : Number) (points : List Point) :
    marks (runningSums sum points) = marks points := by
  induction points generalizing sum with
  | nil => rfl
  | cons p rest ih => rw [runningSums, marks_cons, ih, Point.mark_withValue, marks_cons]

/-- A slope stands at the later of two neighbours, so never at the first point. -/
theorem marks_slopes (per : Number) (points : List Point) :
    (marks (slopes per points)).Sublist (marks points.tail) := by
  fun_induction slopes per points with
  | case1 a b rest _ ih => exact ih.trans (List.sublist_cons_self _ _)
  | case2 a b rest _ ih => exact ih.cons_cons b.mark
  | case3 => exact List.nil_sublist _

theorem marks_gaps (points : List Point) : (marks (gaps points)).Sublist (marks points) := by
  fun_induction gaps points with
  | case1 a b rest ih => exact ih.cons_cons a.mark
  | case2 => exact List.nil_sublist _

theorem marks_select (keep : Bool) (labels : List String) (points : List Point) :
    (marks (select keep labels points)).Sublist (marks points) :=
  (List.filter_sublist).map Point.mark

theorem marks_timeToReference (points references : List Point) :
    (marks (timeToReference points references)).Sublist (marks points) := by
  rw [timeToReference]
  generalize references.toArray = references
  induction points with
  | nil => exact List.nil_sublist _
  | cons p rest ih =>
    simp only [matchReferences]
    split
    · exact ih.cons p.mark
    · split
      · exact ih.cons p.mark
      · exact ih.cons_cons p.mark

theorem mem_merge {p : Point} {lists : List (List Point)} :
    p ∈ merge lists ↔ ∃ points ∈ lists, p ∈ points := by
  suffices ∀ merged : List Point,
      p ∈ lists.foldl (fun merged points => merged.merge points Point.atMost) merged ↔
        p ∈ merged ∨ ∃ points ∈ lists, p ∈ points by
    simpa [merge] using this []
  induction lists with
  | nil => simp
  | cons points rest ih =>
    intro merged
    simp [ih, List.mem_merge, or_assoc]

/-! ## Bins -/

theorem mark_trailingFrom (window : Duration) (kept points : List Point) :
    (Window.trailingFrom window kept points).map Bin.mark = marks points := by
  induction points generalizing kept with
  | nil => rfl
  | cons p rest ih =>
    rw [Window.trailingFrom, List.map_cons, ih]
    rfl

theorem mark_fill (prefs : Window.Preferences) (tiles : List Window.Tile) (points : List Point) :
    (Window.fill prefs tiles points).map Bin.mark =
      tiles.map fun tile => (prefs.stamp tile.stop, "") := by
  induction tiles generalizing points with
  | nil => rfl
  | cons tile rest ih =>
    rw [Window.fill, List.map_cons, ih]
    rfl

theorem mark_of_mem_fill {prefs : Window.Preferences} {tiles : List Window.Tile}
    {points : List Point} {bin : Bin} (mem : bin ∈ Window.fill prefs tiles points) :
    ∃ tile ∈ tiles, bin.mark = (prefs.stamp tile.stop, "") := by
  have marked : bin.mark ∈ (Window.fill prefs tiles points).map Bin.mark := List.mem_map_of_mem mem
  rw [mark_fill, List.mem_map] at marked
  obtain ⟨tile, here, same⟩ := marked
  exact ⟨tile, here, same.symm⟩

theorem mark_of_reduce? {r : Reduction} {fallback : Option Number} {bin : Bin} {p : Point}
    (h : bin.reduce? r fallback = some p) : p.mark = bin.mark := by
  unfold Bin.reduce? at h
  split at h <;> cases h <;> rfl

theorem marks_reduceAll (r : Reduction) (fallback : Option Number) (bins : List Bin) :
    (marks (Bin.reduceAll r fallback bins)).Sublist (bins.map Bin.mark) := by
  induction bins with
  | nil => exact List.nil_sublist _
  | cons bin rest ih =>
    rw [Bin.reduceAll, List.filterMap_cons]
    split
    · exact ih.cons bin.mark
    · rename_i p hp
      rw [marks_cons, mark_of_reduce? hp]
      exact ih.cons_cons bin.mark

end Series

end SeriesScript
