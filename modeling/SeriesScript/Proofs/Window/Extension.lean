import SeriesScript.Proofs.Window.CalendarBins
import SeriesScript.Proofs.Window.Dated

/-!
# Longer ranges

With an end time, windows run on behind the last point, and with a hard start they begin before the
first one. The tiles of the shorter range are then the first ones, or the last ones, of the longer
range, and each keeps its points. For a hard start this holds of windows of one calendar unit, whose
boundaries do not depend on where windows begin, as long as the first unit is not cut by the start
of the calendar.
-/
namespace SeriesScript.Window

variable {window : TimeAmount} {anchor : Anchor} {prefs : Preferences} {hardStart : Option Timestamp}
  {latest start mid stop endTime : Timestamp} {lead laid : List Tile} {points : List Point}
  {first : Point} {bins extended : List Bin} {j k : Int}

/-! ## Tiles of a longer range -/

/-- Tiles that lead beyond a time begin with tiles that lead just beyond it. -/
theorem Laid.exists_split (h : Laid window start laid stop) (beyond : latest.instant < stop.instant) :
    ∃ lead rest mid, laid = lead ++ rest ∧ Laid window start lead mid ∧
      latest.instant < mid.instant ∧ ∀ tile ∈ lead, tile.start.instant ≤ latest.instant := by
  induction laid generalizing start with
  | nil =>
    cases h
    exact ⟨[], [], _, rfl, rfl, beyond, fun _ mem => absurd mem List.not_mem_nil⟩
  | cons tile rest ih =>
    by_cases begun : tile.start.instant ≤ latest.instant
    · obtain ⟨rfl, advanced, forward, later⟩ := h
      obtain ⟨lead, rest, mid, rfl, hlead, past, within⟩ := ih later
      exact ⟨tile :: lead, rest, mid, rfl, ⟨rfl, advanced, forward, hlead⟩, past,
        List.forall_mem_cons.mpr ⟨begun, within⟩⟩
    · obtain ⟨rfl, -⟩ := h
      exact ⟨[], tile :: rest, tile.start, rfl, rfl, not_le.mp begun,
        fun _ mem => absurd mem List.not_mem_nil⟩

/-- Tiles of one unit lead through the start of each later unit, up to where they stop. -/
theorem Laid.exists_lead {first : Calendar.Weekday} (h : Laid anchor.unit start laid stop)
    (begins : start.clock = anchor.startOf first j) (reaches : mid.clock = anchor.startOf first k)
    (le : j ≤ k) (offset : start.offset = mid.offset) (before : mid.instant < stop.instant) :
    ∃ lead rest, laid = lead ++ rest ∧ Laid anchor.unit start lead mid ∧
      Laid anchor.unit mid rest stop := by
  induction laid generalizing start j with
  | nil =>
    have nothing : start = stop := h
    have reached : start.clock ≤ mid.clock := by
      rw [begins, reaches]
      exact Anchor.startOf_mono first le
    rw [Timestamp.clock_le_clock_iff offset, nothing] at reached
    exact absurd before (not_lt.mpr reached)
  | cons tile rest ih =>
    by_cases last : j = k
    · subst last
      have same : start = mid := Timestamp.eq_of_clock (begins.trans reaches.symm) offset
      exact ⟨[], tile :: rest, rfl, same, same ▸ h⟩
    · obtain ⟨rfl, advanced, forward, later⟩ := h
      have next := Anchor.clock_of_advance? begins advanced
      have sameOffset := (offset_of_advance? advanced).trans offset
      obtain ⟨lead, rest, rfl, hlead, hrest⟩ := ih later next (by omega) sameOffset
      exact ⟨tile :: lead, rest, rfl, ⟨rfl, advanced, forward, hlead⟩, hrest⟩

/-! ## Bins of a longer range -/

theorem parents_fill_nil (prefs : Preferences) (laid : List Tile) :
    ∀ bin ∈ fill prefs laid [], bin.parents = [] := by
  induction laid with
  | nil => exact fun _ mem => absurd mem List.not_mem_nil
  | cons tile rest ih => exact List.forall_mem_cons.mpr ⟨rfl, ih⟩

/-- Behind tiles that take all points, the others stay empty. -/
theorem fill_append_nil (prefs : Preferences) (rest : List Tile)
    (taken : (fill prefs lead points).flatMap Bin.parents = points) :
    fill prefs (lead ++ rest) points = fill prefs lead points ++ fill prefs rest [] := by
  induction lead generalizing points with
  | nil => rw [← taken]; rfl
  | cons tile lead ih =>
    rw [fill, List.flatMap_cons] at taken
    have others := List.append_cancel_left (taken.trans List.takeWhile_append_dropWhile.symm)
    rw [List.cons_append, fill, fill, ih others]
    rfl

theorem fill_append_of_le (laid : List Tile) (h : Laid window start lead mid)
    (after : ∀ p ∈ points, mid.instant ≤ (prefs.shift p.timestamp).instant) :
    fill prefs (lead ++ laid) points = fill prefs lead [] ++ fill prefs laid points := by
  induction lead generalizing start with
  | nil => rfl
  | cons tile lead ih =>
    obtain ⟨rfl, -, -, later⟩ := h
    obtain ⟨untaken, left⟩ := untaken_of_le fun p mem => later.start_le_stop.trans (after p mem)
    simp only [List.cons_append, fill, untaken, left, ih later]
    rfl

/-- An end time changes no bin, only how many there are. -/
theorem fill_withEndTime (prefs : Preferences) (endTime : Option Timestamp) (laid : List Tile)
    (points : List Point) : fill { prefs with endTime } laid points = fill prefs laid points := by
  induction laid generalizing points with
  | nil => rfl
  | cons tile rest ih =>
    rw [fill, fill, ih]
    rfl

theorem latest_le_latest_withEndTime (endTime earliest : Timestamp) (nonempty : points ≠ [])
    (opened : prefs.endTime = none) :
    (Window.latest prefs points earliest).instant ≤
      (Window.latest { prefs with endTime := some endTime } points earliest).instant := by
  have last := List.getLast?_eq_some_getLast nonempty
  rw [Window.latest, Window.latest, last, opened]
  simp only [Option.map_some, Timestamp.later_instant]
  exact le_max_left _ _

/-- Adding an end time only adds empty bins behind the others. -/
theorem fixed_withEndTime (nonempty : points ≠ []) (sorted : Series.Ascending points)
    (opened : prefs.endTime = none)
    (h : fixed window { prefs with endTime := some endTime } hardStart points = .ok extended) :
    ∃ bins added, fixed window prefs hardStart points = .ok bins ∧ extended = bins ++ added ∧
      ∀ bin ∈ added, bin.parents = [] := by
  obtain ⟨earliest, found⟩ := exists_earliest prefs hardStart nonempty
  have same : earliest? { prefs with endTime := some endTime } hardStart points = some earliest :=
    found
  obtain ⟨within, laid, ok, rfl⟩ := exists_tiles_of_fixed same h
  obtain ⟨stop, laidOut, beyond⟩ := laid_of_tiles ok
  have later := latest_le_latest_withEndTime endTime earliest nonempty opened
  obtain ⟨lead, rest, mid, rfl, hlead, past, begun⟩ :=
    laidOut.exists_split (lt_of_le_of_lt later beyond)
  have okLead : tiles window prefs (Window.latest prefs points earliest)
      (beginning window prefs.firstDayOfWeek earliest) = .ok lead :=
    tiles_of_laid hlead past fun tile mem =>
      ⟨begun tile mem, (within_of_mem_tiles ok (List.mem_append_left rest mem)).2⟩
  have taken : (fill prefs lead points).flatMap Bin.parents = points :=
    flatMap_parents_fill hlead sorted (fun _ mem => beginning_le_shift found sorted mem)
      fun _ mem => lt_of_le_of_lt (le_latest sorted mem) past
  refine ⟨fill prefs lead points, fill prefs rest [], fixed_of_tiles found within okLead, ?_,
    parents_fill_nil prefs rest⟩
  rw [fill_withEndTime, fill_append_nil prefs rest taken]

/-! ## Earlier starts -/

theorem earliest?_none (head : points.head? = some first) :
    earliest? prefs none points = some (prefs.shift first.timestamp) := by
  rw [earliest?, head]
  rfl

/-- A hard start that is not after the first point is the earliest time. -/
theorem earliest?_hardStart (head : points.head? = some first)
    (before : start.instant ≤ first.timestamp.instant)
    (offset : start.offset = first.timestamp.offset) :
    earliest? prefs (some start) points = some (prefs.shift start) := by
  rw [earliest?, head]
  rcases before.eq_or_lt with together | earlier
  · have same : first.timestamp = start := by
      apply Timestamp.eq_of_clock
      · rw [Timestamp.clock, Timestamp.clock, together, offset]
      · exact offset.symm
    simp [Timestamp.earlier, same]
  · simp [Timestamp.earlier, not_le.mpr earlier]

theorem latest_congr (earliest other : Timestamp) (nonempty : points ≠ []) :
    Window.latest prefs points earliest = Window.latest prefs points other := by
  rw [Window.latest, Window.latest, List.getLast?_eq_some_getLast nonempty]
  cases prefs.endTime <;> rfl

/-- A later unit begins within the calendar, if its time is. -/
theorem Anchor.BeginsWithin.of_le {first : Calendar.Weekday} {t u : Timestamp}
    (h : anchor.BeginsWithin first t) (offset : t.offset = u.offset) (le : t.instant ≤ u.instant)
    (valid : Timestamp.representable u.instant) : anchor.BeginsWithin first u := by
  have later := (Timestamp.clock_le_clock_iff offset).mpr le
  have units : anchor.startOf first (anchor.ordinal first t.clock) ≤
      anchor.startOf first (anchor.ordinal first u.clock) :=
    Anchor.startOf_mono first (Anchor.ordinal_mono first later)
  refine ⟨h.1.trans units, Timestamp.representable_between h.2 valid ?_ ?_⟩
  · rw [Timestamp.ofClock, Timestamp.ofClock, offset]
    exact Int.sub_le_sub_right units _
  · have begun : anchor.startOf first (anchor.ordinal first u.clock) ≤ u.clock :=
      Anchor.startOf_le_iff.mpr le_rfl
    have started := (Timestamp.clock_ofClock _ u.offset).trans_le begun
    refine (Timestamp.clock_le_clock_iff ?_).mp started
    rfl

/-- For windows of one unit, adding a hard start only adds empty bins before the others. -/
theorem fixed_withHardStart (sorted : Series.Ascending points) (head : points.head? = some first)
    (before : start.instant ≤ first.timestamp.instant)
    (offset : start.offset = first.timestamp.offset)
    (within : anchor.BeginsWithin prefs.firstDayOfWeek (prefs.shift start))
    (h : fixed anchor.unit prefs none points = .ok bins)
    (h' : fixed anchor.unit prefs (some start) points = .ok extended) :
    ∃ added, extended = added ++ bins ∧ ∀ bin ∈ added, bin.parents = [] := by
  have nonempty := List.ne_nil_of_mem (List.mem_of_head? head)
  have found : earliest? prefs none points = some (prefs.shift first.timestamp) :=
    earliest?_none head
  obtain ⟨inside, laid, ok, rfl⟩ := exists_tiles_of_fixed found h
  obtain ⟨-, longer, ok', rfl⟩ := exists_tiles_of_fixed (earliest?_hardStart head before offset) h'
  obtain ⟨stop, laidOut, beyond⟩ := laid_of_tiles ok'
  have shifted : (prefs.shift start).instant ≤ (prefs.shift first.timestamp).instant :=
    Int.sub_le_sub_right before _
  have sameOffset : (prefs.shift start).offset = (prefs.shift first.timestamp).offset := offset
  have later : anchor.BeginsWithin prefs.firstDayOfWeek (prefs.shift first.timestamp) :=
    within.of_le sameOffset shifted inside.1
  have units : anchor.ordinal prefs.firstDayOfWeek (prefs.shift start).clock ≤
      anchor.ordinal prefs.firstDayOfWeek (prefs.shift first.timestamp).clock :=
    Anchor.ordinal_mono _ ((Timestamp.clock_le_clock_iff sameOffset).mpr shifted)
  have begun : ∀ p ∈ points,
      (beginning anchor.unit prefs.firstDayOfWeek (prefs.shift first.timestamp)).instant ≤
        (prefs.shift p.timestamp).instant := fun _ mem => beginning_le_shift found sorted mem
  have covered : (beginning anchor.unit prefs.firstDayOfWeek
      (prefs.shift first.timestamp)).instant < stop.instant :=
    ((begun first (List.mem_of_head? head)).trans
      (le_latest sorted (List.mem_of_head? head))).trans_lt beyond
  obtain ⟨lead, rest, rfl, hlead, hrest⟩ := laidOut.exists_lead (Anchor.clock_beginning within)
    (Anchor.clock_beginning later) units (by simpa using sameOffset) covered
  have okRest : tiles anchor.unit prefs (Window.latest prefs points (prefs.shift first.timestamp))
      (beginning anchor.unit prefs.firstDayOfWeek (prefs.shift first.timestamp)) = .ok rest := by
    rw [latest_congr _ (prefs.shift start) nonempty]
    exact tiles_of_laid hrest beyond fun tile mem =>
      within_of_mem_tiles ok' (List.mem_append_right lead mem)
  cases ok.symm.trans okRest
  exact ⟨fill prefs lead [], fill_append_of_le laid hlead begun, parents_fill_nil prefs lead⟩

/-- A longer range regroups no points. If an end time is added, there are bins without it too, and
they come first; if a hard start is added before the first point, on the same clock, and windows are
one calendar unit long, the bins without it come last. The other bins have no parents. The unit of
the hard start has to begin within the calendar. -/
theorem fixed_extends (points : List Point) (prefs : Preferences) (nonempty : points ≠ [])
    (sorted : Series.Ascending points) :
    (∀ (window : TimeAmount) (hardStart : Option Timestamp) (endTime : Timestamp)
      (extended : List Bin), prefs.endTime = none →
      fixed window { prefs with endTime := some endTime } hardStart points = .ok extended →
      ∃ bins added, fixed window prefs hardStart points = .ok bins ∧ extended = bins ++ added ∧
        ∀ bin ∈ added, bin.parents = []) ∧
    ∀ (anchor : Anchor) (start : Timestamp) (first : Point) (bins extended : List Bin),
      points.head? = some first → start.instant ≤ first.timestamp.instant →
      start.offset = first.timestamp.offset →
      anchor.BeginsWithin prefs.firstDayOfWeek (prefs.shift start) →
      fixed anchor.unit prefs none points = .ok bins →
      fixed anchor.unit prefs (some start) points = .ok extended →
      ∃ added, extended = added ++ bins ∧ ∀ bin ∈ added, bin.parents = [] := by
  refine ⟨fun window hardStart endTime extended opened h => ?_,
    fun anchor start first bins extended head before offset within h h' => ?_⟩
  · exact fixed_withEndTime nonempty sorted opened h
  · exact fixed_withHardStart sorted head before offset within h h'

/-- The quarters of `quarterTurn`, with the quarter before them and with the rest of the year. -/
theorem fixed_extends_quarterTurn :
    ∃ bins earlier later, fixed Anchor.quarter.unit .default none quarterTurn = .ok bins ∧
      fixed Anchor.quarter.unit .default (some ⟨1700000000000000000, 3600⟩) quarterTurn =
        .ok earlier ∧
      fixed Anchor.quarter.unit { Preferences.default with endTime := some ⟨1730000000000000000, 0⟩ }
        none quarterTurn = .ok later ∧
      bins.length = 2 ∧ earlier.length = 3 ∧ later.length = 4 ∧
      (∃ added, earlier = added ++ bins ∧ ∀ bin ∈ added, bin.parents = []) ∧
      ∃ added, later = bins ++ added ∧ ∀ bin ∈ added, bin.parents = [] := by
  have nonempty : quarterTurn ≠ [] := List.cons_ne_nil _ _
  have sorted : Series.Ascending quarterTurn := by
    simp [Series.Ascending, quarterTurn]
  have two : (fixed Anchor.quarter.unit .default none quarterTurn).toOption.map List.length =
      some 2 := by
    decide +kernel
  have three : (fixed Anchor.quarter.unit .default (some ⟨1700000000000000000, 3600⟩)
      quarterTurn).toOption.map List.length = some 3 := by
    decide +kernel
  have four : (fixed Anchor.quarter.unit
      { Preferences.default with endTime := some ⟨1730000000000000000, 0⟩ } none
      quarterTurn).toOption.map List.length = some 4 := by
    decide +kernel
  obtain ⟨bins, h, length⟩ := exists_bins two
  obtain ⟨earlier, h₁, length₁⟩ := exists_bins three
  obtain ⟨later, h₂, length₂⟩ := exists_bins four
  obtain ⟨ends, starts⟩ := fixed_extends quarterTurn .default nonempty sorted
  obtain ⟨same, added, found, behind, empty⟩ := ends _ _ _ _ rfl h₂
  cases h.symm.trans found
  refine ⟨bins, earlier, later, h, h₁, h₂, length, length₁, length₂, ?_, added, behind, empty⟩
  have within : Anchor.BeginsWithin .quarter .monday
      (Preferences.default.shift ⟨1700000000000000000, 3600⟩) := by
    decide +kernel
  exact starts .quarter ⟨1700000000000000000, 3600⟩ _ bins earlier rfl (by decide) rfl within h h₁

/-- A Thursday of the first week that the calendar holds in part. -/
def firstThursday : Timestamp := ⟨-8334601185600000000000, 0⟩

/-- In the first days of the calendar, a hard start cuts the week that holds the first point: all
windows are laid from the hard start, and the bin of the point ends on another day. -/
theorem not_fixed_extends_firstWeeks :
    ¬ ∀ (anchor : Anchor) (prefs : Preferences) (start : Timestamp) (first : Point)
      (points : List Point) (bins extended : List Bin), Series.Ascending points →
      points.head? = some first → start.instant ≤ first.timestamp.instant →
      start.offset = first.timestamp.offset → fixed anchor.unit prefs none points = .ok bins →
      fixed anchor.unit prefs (some start) points = .ok extended →
      ∃ added, extended = added ++ bins ∧ ∀ bin ∈ added, bin.parents = [] := by
  intro claimed
  have sorted : Series.Ascending firstWeeks.tail := List.pairwise_singleton _ _
  have alone : (fixed Anchor.week.unit .default none firstWeeks.tail).toOption.map
      (List.map Bin.timestamp) = some [⟨-8334600278400000000001, 0⟩] := by
    decide +kernel
  have cut : (fixed Anchor.week.unit .default (some firstThursday) firstWeeks.tail).toOption.map
      (List.map Bin.timestamp) = some [⟨-8334600624000000000001, 0⟩] := by
    decide +kernel
  obtain ⟨bins, h, stamps⟩ := exists_bins alone
  obtain ⟨extended, h', stamps'⟩ := exists_bins cut
  obtain ⟨added, behind, -⟩ := claimed _ _ firstThursday _ _ _ _ sorted rfl (by decide) rfl h h'
  rw [behind, List.map_append, stamps] at stamps'
  have last := congrArg List.getLast? stamps'
  rw [List.getLast?_concat] at last
  exact absurd last (by decide)

end SeriesScript.Window
