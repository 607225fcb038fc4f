import SeriesScript.Proofs.Window.Tiling

/-!
# Fixed windows partition the points

The windows begin no later than the earliest time and end beyond the latest one. Each point lands in
the one bin whose window holds it, and the stamps of the bins tell the windows apart: a point is not
later than the stamp of its own bin and later than the stamps of all bins before.
-/
namespace SeriesScript.Window

variable {window : TimeAmount} {prefs : Preferences} {hardStart : Option Timestamp}
  {earliest : Timestamp} {points : List Point} {bins : List Bin} {p : Point}

theorem earliest?_mem (h : earliest? prefs hardStart points = some earliest) :
    (∃ p ∈ points, earliest = prefs.shift p.timestamp) ∨
      ∃ t, hardStart = some t ∧ earliest = prefs.shift t := by
  rw [earliest?] at h
  cases points with
  | nil =>
    cases hardStart with
    | none => cases h
    | some t => exact .inr ⟨t, rfl, (Option.some.inj h).symm⟩
  | cons first rest =>
    cases hardStart with
    | none => exact .inl ⟨first, List.mem_cons_self, (Option.some.inj h).symm⟩
    | some t =>
      cases h
      simp only [Timestamp.earlier]
      split
      · exact .inl ⟨first, List.mem_cons_self, rfl⟩
      · exact .inr ⟨t, rfl, rfl⟩

theorem earliest?_le (h : earliest? prefs hardStart points = some earliest)
    (sorted : Series.Ascending points) (mem : p ∈ points) :
    earliest.instant ≤ (prefs.shift p.timestamp).instant := by
  rw [earliest?] at h
  cases points with
  | nil => cases mem
  | cons first rest =>
    have least := sorted.head_le mem
    cases hardStart with
    | none =>
      cases h
      simpa using least
    | some t =>
      cases h
      rw [Timestamp.earlier_instant]
      exact (min_le_left _ _).trans (by simpa using least)

theorem earliest?_le_hardStart {t : Timestamp}
    (h : earliest? prefs (some t) points = some earliest) :
    earliest.instant ≤ (prefs.shift t).instant := by
  rw [earliest?] at h
  cases points with
  | nil =>
    cases h
    exact le_rfl
  | cons first rest =>
    cases h
    rw [Timestamp.earlier_instant]
    exact min_le_right _ _

theorem eq_nil_of_earliest?_eq_none (h : earliest? prefs hardStart points = none) :
    points = [] := by
  cases points with
  | nil => rfl
  | cons first rest => cases hardStart <;> cases h

theorem le_latest (sorted : Series.Ascending points) (mem : p ∈ points) :
    (prefs.shift p.timestamp).instant ≤ (latest prefs points earliest).instant := by
  have last : ∃ q, points.getLast? = some q ∧ p.timestamp.instant ≤ q.timestamp.instant := by
    have ne := List.ne_nil_of_mem mem
    refine ⟨points.getLast ne, List.getLast?_eq_some_getLast ne, ?_⟩
    rw [← List.dropLast_append_getLast ne] at mem sorted
    rcases List.mem_append.mp mem with mem | mem
    · exact (List.pairwise_append.mp sorted).2.2 p mem _ (List.mem_singleton_self _)
    · rw [List.mem_singleton.mp mem]
  obtain ⟨q, hq, le⟩ := last
  have shifted : (prefs.shift p.timestamp).instant ≤ (prefs.shift q.timestamp).instant := by
    simpa using le
  rw [latest]
  rw [hq]
  cases prefs.endTime with
  | none => exact shifted
  | some t =>
    simp only [Option.map_some, Timestamp.later_instant]
    exact shifted.trans (le_max_left _ _)

/-- What fixed windows give: nothing if there is no time to be covered, and else the filled tiles.
-/
theorem tiles_of_fixed (h : fixed window prefs hardStart points = .ok bins) :
    (earliest? prefs hardStart points = none ∧ bins = []) ∨
      ∃ earliest laid, earliest? prefs hardStart points = some earliest ∧
        tiles window prefs (latest prefs points earliest)
          (beginning window prefs.firstDayOfWeek earliest) = .ok laid ∧
        bins = fill prefs laid points := by
  rw [fixed] at h
  split at h
  · rename_i none
    cases h
    exact .inl ⟨none, rfl⟩
  · rename_i earliest some
    split at h
    · split at h
      · rename_i laid ok
        cases h
        exact .inr ⟨earliest, laid, some, ok, rfl⟩
      · cases h
    · cases h

theorem fixed_eq_ok (h : fixed window prefs hardStart points = .ok bins) :
    (earliest? prefs hardStart points = none ∧ bins = []) ∨
      ∃ earliest laid stop, earliest? prefs hardStart points = some earliest ∧
        Laid window (beginning window prefs.firstDayOfWeek earliest) laid stop ∧
        (latest prefs points earliest).instant < stop.instant ∧ bins = fill prefs laid points := by
  rcases tiles_of_fixed h with none | ⟨earliest, laid, some, ok, filled⟩
  · exact .inl none
  · obtain ⟨stop, hl, beyond⟩ := laid_of_tiles ok
    exact .inr ⟨earliest, laid, stop, some, hl, beyond, filled⟩

/-- The stamps of fixed windows rise, whether or not the points are in order. -/
theorem fixed_marks_pairwise (h : fixed window prefs hardStart points = .ok bins) :
    (bins.map Bin.mark).Pairwise fun a b => a.1.instant ≤ b.1.instant := by
  rcases fixed_eq_ok h with ⟨-, rfl⟩ | ⟨earliest, laid, stop, -, hl, -, rfl⟩
  · exact .nil
  · rw [Series.mark_fill, List.pairwise_map]
    refine hl.pairwise.imp_of_mem fun {a b} _ hb apart => ?_
    have := (hl.bounds_of_mem hb).2
    rw [Preferences.stamp_instant, Preferences.stamp_instant]
    omega

/-- The bins of fixed windows partition points in order of time. With the boundaries `s`, which
begin where the window of the earliest time does and follow each other one window later, bin `i`
holds the points from `s i` on and before `s (i + 1)`, on the shifted clock. -/
theorem fixed_partitions (window : TimeAmount) (prefs : Preferences) (hardStart : Option Timestamp)
    (points : List Point) (bins : List Bin) (sorted : Series.Ascending points)
    (h : fixed window prefs hardStart points = .ok bins) :
    bins.flatMap Bin.parents = points ∧
    (earliest? prefs hardStart points = none → points = [] ∧ bins = []) ∧
    ∀ earliest, earliest? prefs hardStart points = some earliest →
      ((∃ p ∈ points, earliest = prefs.shift p.timestamp) ∨
        ∃ t, hardStart = some t ∧ earliest = prefs.shift t) ∧
      (∀ p ∈ points, earliest.instant ≤ (prefs.shift p.timestamp).instant) ∧
      (∀ t, hardStart = some t → earliest.instant ≤ (prefs.shift t).instant) ∧
      ∃ s : Nat → Timestamp, s 0 = beginning window prefs.firstDayOfWeek earliest ∧
        ∀ i (hi : i < bins.length),
          advance? window (s i) = some (s (i + 1)) ∧ (s i).instant < (s (i + 1)).instant ∧
          bins[i].timestamp = (s (i + 1)).plus (prefs.startOfDay.nanos - 1) ∧
          (∀ p ∈ bins[i].parents,
            (s i).instant ≤ p.timestamp.instant - prefs.startOfDay.nanos ∧
            p.timestamp.instant - prefs.startOfDay.nanos < (s (i + 1)).instant ∧
            p.timestamp.instant ≤ bins[i].timestamp.instant) ∧
          ∀ j (hj : j < i), bins[j].timestamp.instant < bins[i].timestamp.instant ∧
            ∀ p ∈ bins[i].parents, bins[j].timestamp.instant < p.timestamp.instant := by
  rcases fixed_eq_ok h with ⟨none, rfl⟩ | ⟨earliest, laid, stop, some, hl, beyond, rfl⟩
  · have empty := eq_nil_of_earliest?_eq_none none
    refine ⟨empty.symm, fun _ => ⟨empty, rfl⟩, fun earliest some => ?_⟩
    rw [none] at some
    cases some
  have after : ∀ p ∈ points, (beginning window prefs.firstDayOfWeek earliest).instant ≤
      (prefs.shift p.timestamp).instant := fun p mem =>
    (beginning_le window prefs.firstDayOfWeek earliest).trans (earliest?_le some sorted mem)
  have before : ∀ p ∈ points, (prefs.shift p.timestamp).instant < stop.instant := fun p mem =>
    lt_of_le_of_lt (le_latest sorted mem) beyond
  refine ⟨flatMap_parents_fill hl sorted after before, fun none => ?_, fun e he => ?_⟩
  · rw [none] at some
    cases some
  cases some.symm.trans he
  have covers := forall₂_fill hl sorted after
  obtain ⟨s, begins, step⟩ := hl.exists_boundaries
  refine ⟨earliest?_mem he, fun p mem => earliest?_le he sorted mem, ?_, s, begins, fun i hi => ?_⟩
  · rintro t rfl
    exact earliest?_le_hardStart he
  obtain ⟨hlen, cover⟩ := List.forall₂_iff_get.mp covers
  have hl' : i < laid.length := hlen ▸ hi
  obtain ⟨tile, advanced, forward⟩ := step i hl'
  have here : Covers prefs ⟨s i, s (i + 1)⟩ (fill prefs laid points)[i] := tile ▸ cover i hl' hi
  refine ⟨advanced, forward, here.stamped, fun p mem => ?_, fun j hj => ?_⟩
  · obtain ⟨low, high⟩ := here.inside p mem
    exact ⟨low, high, here.le_timestamp mem⟩
  · have earlier : Covers prefs laid[j] (fill prefs laid points)[j] := cover j (by omega) (by omega)
    have apart := List.pairwise_iff_getElem.mp hl.pairwise j i (by omega) hl' hj
    rw [tile] at apart
    exact earlier.timestamp_lt here apart forward

/-- Two points of a night before five o'clock, on clocks three hours apart. -/
def leapNight : List Point :=
  [⟨⟨1709251200000000000, 3600⟩, .ofFloat 1, "a"⟩, ⟨⟨1709260200000000000, -7200⟩, .ofFloat 2, "b"⟩]

theorem fixed_partitions_leapNight :
    ∃ bins, Series.Ascending leapNight ∧
      fixed (.period ⟨0, 1, 0⟩) ⟨.sunday, ⟨18000000000000, by decide⟩, none⟩
        (some ⟨1700000000000000000, 0⟩) leapNight = .ok bins ∧
      bins.length = 4 ∧ bins.flatMap Bin.parents = leapNight := by
  have sorted : Series.Ascending leapNight := by
    simp [Series.Ascending, leapNight]
  have length : (fixed (.period ⟨0, 1, 0⟩) ⟨.sunday, ⟨18000000000000, by decide⟩, none⟩
      (some ⟨1700000000000000000, 0⟩) leapNight).toOption.map List.length = some 4 := by
    decide +kernel
  generalize hr : fixed _ _ _ leapNight = r at length ⊢
  cases r with
  | error e => cases length
  | ok bins =>
    exact ⟨bins, sorted, rfl, Option.some.inj length, (fixed_partitions _ _ _ _ _ sorted hr).1⟩

end SeriesScript.Window
