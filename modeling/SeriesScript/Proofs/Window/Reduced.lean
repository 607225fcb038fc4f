import SeriesScript.Proofs.Window.Dated
import SeriesScript.Proofs.Window.Starts

/-!
# Bins reduced to points

A bin is reduced to a point that is stamped with the last moment of its window, one nanosecond
before its end. So the points of bins are in order of time, they are told apart by their timestamps,
and they fall into the windows that they came from: laid from the same time on, the tiles are the
same, and each of them now holds one point or none.
-/
namespace SeriesScript

namespace Bin

variable {r : Reduction} {fallback : Option Number} {bins : List Bin} {bin : Bin} {p : Point}

/-- The bin with the point that it is reduced to in place of its points, if there is one. -/
def collapse (r : Reduction) (fallback : Option Number) (bin : Bin) : Bin :=
  { bin with parents := (bin.reduce? r fallback).toList }

theorem reduceAll_cons (r : Reduction) (fallback : Option Number) (bin : Bin) (bins : List Bin) :
    reduceAll r fallback (bin :: bins) =
      (bin.reduce? r fallback).toList ++ reduceAll r fallback bins := by
  rw [reduceAll, List.filterMap_cons]
  cases bin.reduce? r fallback <;> rfl

theorem mem_reduceAll :
    p ∈ reduceAll r fallback bins ↔ ∃ bin ∈ bins, bin.reduce? r fallback = some p :=
  List.mem_filterMap

theorem timestamp_of_reduce? (h : bin.reduce? r fallback = some p) : p.timestamp = bin.timestamp :=
  congrArg Prod.fst (Series.mark_of_reduce? h)

/-- Where there are points, they have a value. -/
theorem exists_reduce? (r : Reduction) (fallback : Option Number) (held : bin.parents ≠ []) :
    ∃ p, bin.reduce? r fallback = some p := by
  obtain ⟨first, rest, parents⟩ := List.exists_cons_of_ne_nil held
  have valued : ∃ value, r.reduce (bin.parents.map (·.value)) = some value := by
    rw [parents]
    cases r <;> exact ⟨_, rfl⟩
  obtain ⟨value, hvalue⟩ := valued
  unfold reduce?
  rw [hvalue]
  exact ⟨_, rfl⟩

/-- Bins with different timestamps are told apart by the points they are reduced to. -/
theorem filter_reduceAll (apart : bins.Pairwise fun a b => a.timestamp ≠ b.timestamp)
    (mem : bin ∈ bins) :
    (reduceAll r fallback bins).filter (fun p => p.timestamp = bin.timestamp) =
      (bin.reduce? r fallback).toList := by
  induction bins with
  | nil => cases mem
  | cons first rest ih =>
    obtain ⟨before, apart⟩ := List.pairwise_cons.mp apart
    have stamped : ∀ p ∈ (first.reduce? r fallback).toList, p.timestamp = first.timestamp := by
      intro p mem
      exact timestamp_of_reduce? (Option.mem_toList.mp mem)
    rw [reduceAll_cons, List.filter_append]
    rcases List.mem_cons.mp mem with rfl | mem
    · have own : (bin.reduce? r fallback).toList.filter (fun p => p.timestamp = bin.timestamp) =
          (bin.reduce? r fallback).toList :=
        List.filter_eq_self.mpr fun p mem => decide_eq_true (stamped p mem)
      have others :
          (reduceAll r fallback rest).filter (fun p => p.timestamp = bin.timestamp) = [] := by
        rw [List.filter_eq_nil_iff]
        intro p mem same
        obtain ⟨other, later, reduced⟩ := mem_reduceAll.mp mem
        rw [timestamp_of_reduce? reduced, decide_eq_true_eq] at same
        exact before other later same.symm
      rw [own, others, List.append_nil]
    · have others : (first.reduce? r fallback).toList.filter
          (fun p => p.timestamp = bin.timestamp) = [] := by
        rw [List.filter_eq_nil_iff]
        intro p here same
        rw [stamped p here, decide_eq_true_eq] at same
        exact before bin mem same
      rw [others, ih apart mem, List.nil_append]

end Bin

namespace Window

variable {window : TimeAmount} {prefs : Preferences} {hardStart : Option Timestamp}
  {start stop earliest other : Timestamp} {laid : List Tile} {points : List Point}
  {bins : List Bin} {r : Reduction} {fallback : Option Number} {p : Point} {bin : Bin}

/-! ## The stamps of bins -/

@[simp] theorem Preferences.shift_stamp (prefs : Preferences) (stop : Timestamp) :
    prefs.shift (prefs.stamp stop) = stop.plus (-1) := by
  simp only [shift, stamp, Timestamp.plus]
  congr 1
  omega

theorem timestamp_of_mem_fill (mem : bin ∈ fill prefs laid points) :
    ∃ tile ∈ laid, bin.timestamp = prefs.stamp tile.stop := by
  obtain ⟨tile, here, marked⟩ := Series.mark_of_mem_fill mem
  exact ⟨tile, here, congrArg Prod.fst marked⟩

/-- A point of the bins stands one nanosecond before the end of a tile. -/
theorem shift_of_mem_reduceAll (mem : p ∈ Bin.reduceAll r fallback (fill prefs laid points)) :
    ∃ tile ∈ laid, prefs.shift p.timestamp = tile.stop.plus (-1) := by
  obtain ⟨bin, here, reduced⟩ := Bin.mem_reduceAll.mp mem
  obtain ⟨tile, there, stamped⟩ := timestamp_of_mem_fill here
  refine ⟨tile, there, ?_⟩
  rw [Bin.timestamp_of_reduce? reduced, stamped, Preferences.shift_stamp]

theorem Laid.stop_le {tile : Tile} (h : Laid window start laid stop) (mem : tile ∈ laid) :
    tile.stop.instant ≤ stop.instant := by
  induction laid generalizing start with
  | nil => cases mem
  | cons first rest ih =>
    obtain ⟨rfl, -, -, later⟩ := h
    rcases List.mem_cons.mp mem with rfl | mem
    · exact later.start_le_stop
    · exact ih later mem

theorem timestamp_pairwise_fill (h : Laid window start laid stop) (prefs : Preferences)
    (points : List Point) :
    (fill prefs laid points).Pairwise fun a b => a.timestamp.instant < b.timestamp.instant := by
  induction laid generalizing start points with
  | nil => exact .nil
  | cons tile rest ih =>
    obtain ⟨rfl, -, -, later⟩ := h
    refine List.pairwise_cons.mpr ⟨fun bin mem => ?_, ih later _⟩
    obtain ⟨next, here, stamped⟩ := timestamp_of_mem_fill mem
    have begun := later.bounds_of_mem here
    rw [stamped, Preferences.stamp_instant, Preferences.stamp_instant]
    omega

theorem timestamp_pairwise_fixed (h : fixed window prefs hardStart points = .ok bins) :
    bins.Pairwise fun a b => a.timestamp ≠ b.timestamp := by
  rcases fixed_eq_ok h with ⟨-, rfl⟩ | ⟨_, _, _, -, laidOut, -, rfl⟩
  · exact .nil
  · refine (timestamp_pairwise_fill laidOut prefs points).imp fun earlier same => ?_
    rw [same] at earlier
    exact lt_irrefl _ earlier

theorem ascending_reduceAll (h : Laid window start laid stop) (prefs : Preferences) (r : Reduction)
    (fallback : Option Number) (points : List Point) :
    Series.Ascending (Bin.reduceAll r fallback (fill prefs laid points)) := by
  have marked : ((fill prefs laid points).map Bin.mark).Pairwise fun a b =>
      a.1.instant ≤ b.1.instant :=
    List.pairwise_map.mpr ((timestamp_pairwise_fill h prefs points).imp le_of_lt)
  exact Series.ascending_iff_marks.mpr (marked.sublist (Series.marks_reduceAll r fallback _))

theorem covers_of_mem_fill (h : Laid window start laid stop) (sorted : Series.Ascending points)
    (begun : ∀ p ∈ points, start.instant ≤ (prefs.shift p.timestamp).instant)
    (mem : bin ∈ fill prefs laid points) : ∃ tile, Covers prefs tile bin := by
  obtain ⟨length, covers⟩ := List.forall₂_iff_get.mp (forall₂_fill h sorted begun)
  obtain ⟨i, hi, rfl⟩ := List.mem_iff_getElem.mp mem
  exact ⟨_, covers i (length ▸ hi) hi⟩

/-- A point is no later than the point to which its bin is reduced. -/
theorem exists_later_of_mem (h : Laid window start laid stop) (sorted : Series.Ascending points)
    (begun : ∀ p ∈ points, start.instant ≤ (prefs.shift p.timestamp).instant)
    (before : ∀ p ∈ points, (prefs.shift p.timestamp).instant < stop.instant) (r : Reduction)
    (fallback : Option Number) (mem : p ∈ points) :
    ∃ q ∈ Bin.reduceAll r fallback (fill prefs laid points),
      p.timestamp.instant ≤ q.timestamp.instant := by
  rw [← flatMap_parents_fill h sorted begun before, List.mem_flatMap] at mem
  obtain ⟨bin, here, held⟩ := mem
  obtain ⟨q, reduced⟩ := Bin.exists_reduce? r fallback (List.ne_nil_of_mem held)
  obtain ⟨tile, covers⟩ := covers_of_mem_fill h sorted begun here
  refine ⟨q, Bin.mem_reduceAll.mpr ⟨bin, here, reduced⟩, ?_⟩
  rw [Bin.timestamp_of_reduce? reduced]
  exact covers.le_timestamp held

/-! ## The same tiles -/

/-- A tile takes the points before its end and leaves the others to the tiles behind it. -/
theorem fill_cons_append {tile : Tile} {rest : List Tile} {own others : List Point}
    (inside : ∀ p ∈ own, (prefs.shift p.timestamp).instant < tile.stop.instant)
    (after : ∀ p ∈ others, tile.stop.instant ≤ (prefs.shift p.timestamp).instant) :
    fill prefs (tile :: rest) (own ++ others) =
      ⟨prefs.stamp tile.stop, "", own⟩ :: fill prefs rest others := by
  obtain ⟨untaken, left⟩ := untaken_of_le after
  have taken : ∀ p ∈ own,
      decide ((prefs.shift p.timestamp).instant < tile.stop.instant) = true :=
    fun p mem => decide_eq_true (inside p mem)
  rw [fill, List.takeWhile_append_of_pos taken, List.dropWhile_append_of_pos taken, untaken, left,
    List.append_nil]

/-- The points of bins fill the tiles of the bins. -/
theorem fill_reduceAll (h : Laid window start laid stop) (r : Reduction) (fallback : Option Number)
    (points : List Point) :
    fill prefs laid (Bin.reduceAll r fallback (fill prefs laid points)) =
      (fill prefs laid points).map (Bin.collapse r fallback) := by
  induction laid generalizing start points with
  | nil => rfl
  | cons tile rest ih =>
    obtain ⟨rfl, -, -, later⟩ := h
    obtain ⟨parents, others, filled⟩ : ∃ parents others, fill prefs (tile :: rest) points =
        ⟨prefs.stamp tile.stop, "", parents⟩ :: fill prefs rest others :=
      ⟨_, _, rfl⟩
    have inside : ∀ p ∈ (Bin.reduce? r fallback ⟨prefs.stamp tile.stop, "", parents⟩).toList,
        (prefs.shift p.timestamp).instant < tile.stop.instant := by
      intro p mem
      rw [Bin.timestamp_of_reduce? (Option.mem_toList.mp mem), Preferences.shift_stamp]
      exact Int.sub_one_lt_of_le le_rfl
    have after : ∀ p ∈ Bin.reduceAll r fallback (fill prefs rest others),
        tile.stop.instant ≤ (prefs.shift p.timestamp).instant := by
      intro p mem
      obtain ⟨next, here, shifted⟩ := shift_of_mem_reduceAll mem
      have begun := later.bounds_of_mem here
      rw [shifted, Timestamp.plus_instant]
      omega
    rw [filled, Bin.reduceAll_cons, fill_cons_append inside after, ih later]
    rfl

theorem latest_eq (opened : prefs.endTime = none) (nonempty : points ≠ []) :
    ∃ p ∈ points, ∀ earliest, latest prefs points earliest = prefs.shift p.timestamp := by
  refine ⟨points.getLast nonempty, List.getLast_mem nonempty, fun earliest => ?_⟩
  rw [latest, List.getLast?_eq_some_getLast nonempty, opened]
  rfl

/-- From where they began, the tiles are laid for the points of the bins again. -/
theorem tiles_reduceAll (ok : tiles window prefs (latest prefs points earliest) start = .ok laid)
    (opened : prefs.endTime = none) (sorted : Series.Ascending points) (nonempty : points ≠ [])
    (begun : ∀ p ∈ points, start.instant ≤ (prefs.shift p.timestamp).instant) (r : Reduction)
    (fallback : Option Number) (other : Timestamp) :
    tiles window prefs (latest prefs (Bin.reduceAll r fallback (fill prefs laid points)) other)
      start = .ok laid := by
  obtain ⟨stop, laidOut, beyond⟩ := laid_of_tiles ok
  have rising := ascending_reduceAll laidOut prefs r fallback points
  obtain ⟨last, mem, isLast⟩ := latest_eq opened nonempty
  obtain ⟨q, hq, later⟩ := exists_later_of_mem laidOut sorted begun
    (fun p mem => lt_of_le_of_lt (le_latest sorted mem) beyond) r fallback mem
  obtain ⟨final, hfinal, isFinal⟩ := latest_eq opened (List.ne_nil_of_mem hq)
  have reached : (prefs.shift q.timestamp).instant ≤ (prefs.shift final.timestamp).instant := by
    rw [← isFinal other]
    exact le_latest rising hq
  refine tiles_of_laid laidOut ?_ fun tile here => ?_
  · obtain ⟨tile, here, shifted⟩ := shift_of_mem_reduceAll hfinal
    have := laidOut.stop_le here
    rw [isFinal, shifted, Timestamp.plus_instant]
    omega
  · obtain ⟨before, stamped⟩ := within_of_mem_tiles ok here
    rw [isLast] at before
    rw [isFinal]
    have shifted : (prefs.shift last.timestamp).instant ≤ (prefs.shift q.timestamp).instant :=
      Int.sub_le_sub_right later _
    exact ⟨before.trans (shifted.trans reached), stamped⟩

/-- Binned once more, the points of bins give the bins with one point each, if the windows begin
where they did. -/
theorem fixed_reduceAll (found : earliest? prefs hardStart points = some earliest)
    (opened : prefs.endTime = none) (sorted : Series.Ascending points) (nonempty : points ≠ [])
    (h : fixed window prefs hardStart points = .ok bins)
    (found' : earliest? prefs hardStart (Bin.reduceAll r fallback bins) = some other)
    (within : other.InCalendar)
    (together : beginning window prefs.firstDayOfWeek other =
      beginning window prefs.firstDayOfWeek earliest) :
    fixed window prefs hardStart (Bin.reduceAll r fallback bins) =
      .ok (bins.map (Bin.collapse r fallback)) := by
  obtain ⟨-, laid, ok, rfl⟩ := exists_tiles_of_fixed found h
  obtain ⟨stop, laidOut, -⟩ := laid_of_tiles ok
  have again := tiles_reduceAll ok opened sorted nonempty
    (fun _ mem => beginning_le_shift found sorted mem) r fallback other
  rw [← together] at again
  rw [fixed_of_tiles found' within again, fill_reduceAll laidOut]

theorem reduceAll_ne_nil (h : Laid window start laid stop) (sorted : Series.Ascending points)
    (begun : ∀ p ∈ points, start.instant ≤ (prefs.shift p.timestamp).instant)
    (before : ∀ p ∈ points, (prefs.shift p.timestamp).instant < stop.instant) (r : Reduction)
    (fallback : Option Number) (nonempty : points ≠ []) :
    Bin.reduceAll r fallback (fill prefs laid points) ≠ [] := by
  obtain ⟨p, mem⟩ := List.exists_mem_of_ne_nil points nonempty
  obtain ⟨q, hq, -⟩ := exists_later_of_mem h sorted begun before r fallback mem
  exact List.ne_nil_of_mem hq

end Window

end SeriesScript
