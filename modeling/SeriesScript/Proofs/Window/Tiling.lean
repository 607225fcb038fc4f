import Mathlib.Algebra.Order.Group.Int
import Mathlib.Data.List.Forall2
import Mathlib.Data.List.TakeWhile
import Mathlib.Order.MinMax
import SeriesScript.Proofs.Series.Order
import SeriesScript.Proofs.Window.Floor
import SeriesScript.Window.Fixed

/-!
# Windows laid end to end

The tiles of fixed windows lie end to end and reach beyond the latest time. Filled with points in
order of time, each of them takes the points of its own window and none is left over.
-/
namespace SeriesScript

namespace Timestamp

@[simp] theorem plus_instant (t : Timestamp) (nanos : Int) :
    (t.plus nanos).instant = t.instant + nanos := rfl

@[simp] theorem earlier_instant (a b : Timestamp) :
    (a.earlier b).instant = min a.instant b.instant := by
  rw [earlier]
  split
  · rename_i h
    exact (min_eq_left h).symm
  · rename_i h
    exact (min_eq_right (not_le.mp h).le).symm

@[simp] theorem later_instant (a b : Timestamp) :
    (a.later b).instant = max a.instant b.instant := by
  rw [later]
  split
  · rename_i h
    exact (max_eq_right h).symm
  · rename_i h
    exact (max_eq_left (not_le.mp h).le).symm

end Timestamp

namespace Window

variable {window : TimeAmount} {prefs : Preferences} {latest start stop : Timestamp}
  {tile : Tile} {laid : List Tile} {points : List Point}

/-- The tiles lead from `start` to `stop`: each begins where the one before it ends, and ends one
window later. -/
def Laid (window : TimeAmount) : Timestamp → List Tile → Timestamp → Prop
  | start, [], stop => start = stop
  | start, tile :: rest, stop =>
    tile.start = start ∧ advance? window tile.start = some tile.stop ∧
      tile.start.instant < tile.stop.instant ∧ Laid window tile.stop rest stop

@[simp] theorem Preferences.shift_instant (prefs : Preferences) (t : Timestamp) :
    (prefs.shift t).instant = t.instant - prefs.startOfDay.nanos := rfl

@[simp] theorem Preferences.shift_offset (prefs : Preferences) (t : Timestamp) :
    (prefs.shift t).offset = t.offset := rfl

@[simp] theorem Preferences.stamp_instant (prefs : Preferences) (stop : Timestamp) :
    (prefs.stamp stop).instant = stop.instant + (prefs.startOfDay.nanos - 1) := rfl

theorem laid_of_tiles (h : tiles window prefs latest start = .ok laid) :
    ∃ stop, Laid window start laid stop ∧ latest.instant < stop.instant := by
  fun_induction tiles window prefs latest start generalizing laid with
  | case2 start before stop advanced forward inside rest he ih =>
    cases h
    obtain ⟨last, hlast, beyond⟩ := ih he
    exact ⟨last, ⟨rfl, advanced, forward, hlast⟩, beyond⟩
  | case6 start beyond =>
    cases h
    exact ⟨start, rfl, by omega⟩
  | _ => cases h

/-- The tiles begin by the latest time, and each of them can be stamped. -/
theorem within_of_mem_tiles (h : tiles window prefs latest start = .ok laid) (mem : tile ∈ laid) :
    tile.start.instant ≤ latest.instant ∧
      Timestamp.representable (prefs.stamp tile.stop).instant := by
  fun_induction tiles window prefs latest start generalizing laid with
  | case2 start before stop _ _ stamped rest ok ih =>
    cases h
    rcases List.mem_cons.mp mem with rfl | mem
    · exact ⟨before, stamped⟩
    · exact ih ok mem
  | case6 =>
    cases h
    cases mem
  | _ => cases h

/-- There are no other tiles than the ones that lead beyond the latest time. -/
theorem tiles_of_laid (h : Laid window start laid stop) (beyond : latest.instant < stop.instant)
    (within : ∀ tile ∈ laid, tile.start.instant ≤ latest.instant ∧
      Timestamp.representable (prefs.stamp tile.stop).instant) :
    tiles window prefs latest start = .ok laid := by
  induction laid generalizing start with
  | nil =>
    cases h
    rw [tiles, dif_neg (not_le.mpr beyond)]
  | cons tile rest ih =>
    obtain ⟨rfl, advanced, forward, later⟩ := h
    obtain ⟨before, stamped⟩ := within tile List.mem_cons_self
    have laterTiles := ih later fun tile mem => within tile (List.mem_cons_of_mem _ mem)
    rw [tiles, dif_pos before]
    simp only [advanced, forward, stamped, laterTiles, ↓reduceDIte, ↓reduceIte]

theorem Laid.bounds_of_mem (h : Laid window start laid stop) (mem : tile ∈ laid) :
    start.instant ≤ tile.start.instant ∧ tile.start.instant < tile.stop.instant := by
  induction laid generalizing start with
  | nil => cases mem
  | cons first rest ih =>
    obtain ⟨rfl, -, forward, later⟩ := h
    rcases List.mem_cons.mp mem with rfl | mem
    · exact ⟨le_rfl, forward⟩
    · obtain ⟨after, ends⟩ := ih later mem
      exact ⟨forward.le.trans after, ends⟩

theorem Laid.start_le_stop (h : Laid window start laid stop) : start.instant ≤ stop.instant := by
  induction laid generalizing start with
  | nil =>
    cases h
    exact le_rfl
  | cons tile rest ih =>
    obtain ⟨rfl, -, forward, later⟩ := h
    exact forward.le.trans (ih later)

theorem Laid.pairwise (h : Laid window start laid stop) :
    laid.Pairwise fun a b => a.stop.instant ≤ b.start.instant := by
  induction laid generalizing start with
  | nil => exact .nil
  | cons first rest ih =>
    obtain ⟨rfl, -, -, later⟩ := h
    exact List.pairwise_cons.mpr ⟨fun _ mem => (later.bounds_of_mem mem).1, ih later⟩

/-- The tiles by their boundaries, each one window after the one before it. -/
theorem Laid.exists_boundaries (h : Laid window start laid stop) :
    ∃ s : Nat → Timestamp, s 0 = start ∧ ∀ i (hi : i < laid.length), laid[i] = ⟨s i, s (i + 1)⟩ ∧
      advance? window (s i) = some (s (i + 1)) ∧ (s i).instant < (s (i + 1)).instant := by
  induction laid generalizing start with
  | nil => exact ⟨fun _ => start, rfl, fun i hi => absurd hi (Nat.not_lt_zero i)⟩
  | cons first rest ih =>
    obtain ⟨rfl, advanced, forward, later⟩ := h
    obtain ⟨s, hs, step⟩ := ih later
    refine ⟨fun i => Nat.casesOn i first.start s, rfl, fun i hi => ?_⟩
    cases i with
    | zero =>
      simp only [hs]
      exact ⟨rfl, advanced, forward⟩
    | succ i => exact step i (Nat.lt_of_succ_lt_succ hi)

/-! ## Filling the tiles -/

/-- A bin that stands for a tile: stamped with the last moment of it, and made of points in it. -/
structure Covers (prefs : Preferences) (tile : Tile) (bin : Bin) : Prop where
  stamped : bin.timestamp = prefs.stamp tile.stop
  inside : ∀ p ∈ bin.parents, tile.start.instant ≤ (prefs.shift p.timestamp).instant ∧
    (prefs.shift p.timestamp).instant < tile.stop.instant

theorem Covers.le_timestamp {bin : Bin} {p : Point}
    (h : Covers prefs tile bin) (mem : p ∈ bin.parents) :
    p.timestamp.instant ≤ bin.timestamp.instant := by
  have := (h.inside p mem).2
  rw [Preferences.shift_instant] at this
  rw [h.stamped, Preferences.stamp_instant]
  omega

/-- The stamp of an earlier bin lies before the points and the stamp of a later one. -/
theorem Covers.timestamp_lt {a b : Tile} {first second : Bin} (ha : Covers prefs a first)
    (hb : Covers prefs b second) (apart : a.stop.instant ≤ b.start.instant)
    (forward : b.start.instant < b.stop.instant) :
    first.timestamp.instant < second.timestamp.instant ∧
      ∀ p ∈ second.parents, first.timestamp.instant < p.timestamp.instant := by
  rw [ha.stamped, hb.stamped]
  refine ⟨?_, fun p mem => ?_⟩
  · rw [Preferences.stamp_instant, Preferences.stamp_instant]
    omega
  · have := (hb.inside p mem).1
    rw [Preferences.shift_instant] at this
    rw [Preferences.stamp_instant]
    omega

theorem le_of_mem_dropWhile {bound : Int} (sorted : Series.Ascending points) {p : Point}
    (mem : p ∈ points.dropWhile fun q => (prefs.shift q.timestamp).instant < bound) :
    bound ≤ (prefs.shift p.timestamp).instant := by
  induction points with
  | nil => cases mem
  | cons first rest ih =>
    obtain ⟨least, sorted⟩ := List.pairwise_cons.mp sorted
    rw [List.dropWhile_cons] at mem
    split at mem
    · exact ih sorted mem
    · rename_i beyond
      rw [decide_eq_true_eq, Preferences.shift_instant] at beyond
      rw [Preferences.shift_instant]
      rcases List.mem_cons.mp mem with rfl | mem
      · omega
      · have := least p mem
        omega

/-- A tile that ends by the time of all points takes none of them. -/
theorem untaken_of_le {bound : Int}
    (after : ∀ p ∈ points, bound ≤ (prefs.shift p.timestamp).instant) :
    points.takeWhile (fun p => (prefs.shift p.timestamp).instant < bound) = [] ∧
      points.dropWhile (fun p => (prefs.shift p.timestamp).instant < bound) = points := by
  have outside : ∀ p ∈ points, ¬decide ((prefs.shift p.timestamp).instant < bound) = true := by
    intro p mem
    rw [decide_eq_true_eq, not_lt]
    exact after p mem
  constructor
  · rw [List.takeWhile_eq_nil_iff]
    exact fun nonempty => outside _ (List.getElem_mem nonempty)
  · rw [List.dropWhile_eq_self_iff]
    exact fun nonempty => outside _ (List.getElem_mem nonempty)

/-- Every bin covers its tile, if no point lies before the first one. -/
theorem forall₂_fill (h : Laid window start laid stop) (sorted : Series.Ascending points)
    (after : ∀ p ∈ points, start.instant ≤ (prefs.shift p.timestamp).instant) :
    List.Forall₂ (Covers prefs) laid (fill prefs laid points) := by
  induction laid generalizing start points with
  | nil => exact .nil
  | cons tile rest ih =>
    obtain ⟨rfl, -, -, later⟩ := h
    refine .cons ⟨rfl, fun p mem => ⟨after p (List.takeWhile_subset _ mem), ?_⟩⟩
      (ih later (sorted.dropWhile _) fun p mem => le_of_mem_dropWhile sorted mem)
    have inside := List.mem_takeWhile_imp mem
    exact of_decide_eq_true inside

/-- No point is lost or moved, if all lie between the first tile and the end of the last. -/
theorem flatMap_parents_fill (h : Laid window start laid stop) (sorted : Series.Ascending points)
    (after : ∀ p ∈ points, start.instant ≤ (prefs.shift p.timestamp).instant)
    (before : ∀ p ∈ points, (prefs.shift p.timestamp).instant < stop.instant) :
    (fill prefs laid points).flatMap Bin.parents = points := by
  induction laid generalizing start points with
  | nil =>
    cases h
    cases points with
    | nil => rfl
    | cons p rest =>
      have := after p List.mem_cons_self
      have := before p List.mem_cons_self
      omega
  | cons tile rest ih =>
    obtain ⟨rfl, -, -, later⟩ := h
    rw [fill, List.flatMap_cons, ih later (sorted.dropWhile _)
      (fun p mem => le_of_mem_dropWhile sorted mem)
      (fun p mem => before p (List.dropWhile_subset _ mem))]
    exact List.takeWhile_append_dropWhile

end Window

end SeriesScript
