import SeriesScript.Proofs.Window.Extension
import SeriesScript.Proofs.Window.Reduced

/-!
# Bins of bins

The points of bins give the same bins again if the windows begin where they did. A hard start sees
to that: all windows begin with the unit that holds it, and no point of the bins stands before them.
Without one, the first point of the bins stands at the end of the first window, behind the first of
all points; it lies in the same unit if windows are one unit long, unless the start of the calendar
cuts the first one.
-/
namespace SeriesScript.Window

variable {window : TimeAmount} {anchor : Anchor} {prefs : Preferences} {start stop : Timestamp}
  {points : List Point} {bins : List Bin} {first : Point}

/-! ## Windows from a hard start -/

/-- With a hard start, the earliest time lies between the hard start and any time that is not after
it or the first point. -/
theorem exists_earliest_between {low : Int} (head : points.head? = some first)
    (offset : first.timestamp.offset = start.offset)
    (above : low ≤ (prefs.shift first.timestamp).instant)
    (reached : low ≤ (prefs.shift start).instant) :
    ∃ other, earliest? prefs (some start) points = some other ∧
      other.offset = (prefs.shift start).offset ∧ low ≤ other.instant ∧
      other.instant ≤ (prefs.shift start).instant := by
  refine ⟨(prefs.shift first.timestamp).earlier (prefs.shift start), ?_, ?_, ?_, ?_⟩
  · rw [earliest?, head]
    rfl
  · rw [Timestamp.earlier]
    split
    · exact offset
    · rfl
  · rw [Timestamp.earlier_instant]
    exact le_min above reached
  · rw [Timestamp.earlier_instant]
    exact min_le_right _ _

/-- The first point of the bins is not before the windows, so the windows begin with the unit that
holds the hard start again, whichever of the two is earlier. -/
theorem fixed_reduceAll_hardStart (opened : prefs.endTime = none) (sorted : Series.Ascending points)
    (head : points.head? = some first) (before : start.instant ≤ first.timestamp.instant)
    (offset : start.offset = first.timestamp.offset)
    (h : fixed window prefs (some start) points = .ok bins) (r : Reduction)
    (fallback : Option Number) :
    fixed window prefs (some start) (Bin.reduceAll r fallback bins) =
      .ok (bins.map (Bin.collapse r fallback)) := by
  have nonempty := List.ne_nil_of_mem (List.mem_of_head? head)
  have found : earliest? prefs (some start) points = some (prefs.shift start) :=
    earliest?_hardStart head before offset
  obtain ⟨within, laid, ok, filled⟩ := exists_tiles_of_fixed found h
  obtain ⟨stop, laidOut, beyond⟩ := laid_of_tiles ok
  have kept : Bin.reduceAll r fallback bins ≠ [] := by
    rw [filled]
    exact reduceAll_ne_nil laidOut sorted (fun _ mem => beginning_le_shift found sorted mem)
      (fun _ mem => lt_of_le_of_lt (le_latest sorted mem) beyond) r fallback nonempty
  obtain ⟨q, rest, reduced⟩ := List.exists_cons_of_ne_nil kept
  have hq : q ∈ Bin.reduceAll r fallback bins := reduced ▸ List.mem_cons_self
  obtain ⟨tile, here, shifted⟩ := shift_of_mem_reduceAll (filled ▸ hq)
  have above : (beginning window prefs.firstDayOfWeek (prefs.shift start)).instant ≤
      (prefs.shift q.timestamp).instant := by
    have bounds := laidOut.bounds_of_mem here
    rw [shifted, Timestamp.plus_instant]
    omega
  have sameOffset : (prefs.shift q.timestamp).offset = start.offset := by
    rw [shifted]
    exact (ends_of_mem_tiles ok here).offset_eq.trans (beginning_offset _ _ _)
  have first' : (Bin.reduceAll r fallback bins).head? = some q := by rw [reduced, List.head?_cons]
  obtain ⟨other, found', offset', low, high⟩ :=
    exists_earliest_between first' sameOffset above (beginning_le _ _ _)
  apply fixed_reduceAll found opened sorted nonempty h found'
  · have begun : (beginning window prefs.firstDayOfWeek (prefs.shift start)).InCalendar :=
      beginning_inCalendar within
    exact begun.between within ((beginning_offset _ _ _).trans offset'.symm) offset' low high
  · exact beginning_eq_of_between offset' low high

/-! ## Windows of one unit -/

/-- Times of a unit are within the calendar, if its start is and the next unit can be reached. -/
theorem Anchor.inCalendar_of_unit {weekStart : Calendar.Weekday} {t u : Timestamp} {k : Int}
    (within : t.InCalendar) (begins : t.clock = anchor.startOf weekStart k)
    (advanced : advance? anchor.unit t = some stop) (offset : u.offset = t.offset)
    (reached : t.instant ≤ u.instant) (before : u.instant < stop.instant) : u.InCalendar := by
  have stopOffset := offset_of_advance? advanced
  cases anchor with
  | hour =>
    -- an hour may end with the calendar, but then its times are on the last day
    have representable := representable_of_advance? within.1 advanced
    refine ⟨Timestamp.representable_between within.1 representable reached before.le, ?_⟩
    have shown := Timestamp.hasDate_day_iff.mp within.2
    have ends : stop.clock = (k + 1) * nanosPerHour := Anchor.clock_of_advance? begins advanced
    have later := (Timestamp.clock_le_clock_iff offset.symm).mpr reached
    have sooner := (Timestamp.clock_lt_clock_iff (offset.trans stopOffset.symm)).mpr before
    rw [Timestamp.hasDate_day_iff]
    rw [Timestamp.representable_iff] at shown ⊢
    simp only [Anchor.startOf, nanosPerHour, nanosPerDay] at *
    omega
  | day | week | month | quarter | halfYear | year =>
    have ended := advance?_period_inCalendar within advanced
    exact within.between ended offset.symm (offset.trans stopOffset.symm) reached before.le

/-- Times of one unit have one beginning. -/
theorem beginning_eq_of_ordinal {weekStart : Calendar.Weekday} {t u : Timestamp}
    (begun : anchor.BeginsWithin weekStart t) (offset : u.offset = t.offset)
    (same : anchor.ordinal weekStart u.clock = anchor.ordinal weekStart t.clock) :
    beginning anchor.unit weekStart u = beginning anchor.unit weekStart t := by
  have begun' : anchor.BeginsWithin weekStart u := by
    rw [Anchor.BeginsWithin, same, offset]
    exact begun
  apply Timestamp.eq_of_clock
  · rw [Anchor.clock_beginning begun, Anchor.clock_beginning begun', same]
  · rw [beginning_offset, beginning_offset, offset]

/-- A unit that begins within the calendar ends after the times that it holds, and its last moment
has the beginning that they have. -/
theorem lastMoment_of_unit {weekStart : Calendar.Weekday} {t : Timestamp} (within : t.InCalendar)
    (begun : anchor.BeginsWithin weekStart t)
    (advanced : advance? anchor.unit (beginning anchor.unit weekStart t) = some stop) :
    t.instant < stop.instant ∧ (stop.plus (-1)).InCalendar ∧
      beginning anchor.unit weekStart (stop.plus (-1)) = beginning anchor.unit weekStart t := by
  have opens := Anchor.clock_beginning begun
  have ends := Anchor.clock_of_advance? opens advanced
  have sameOffset : stop.offset = t.offset :=
    (offset_of_advance? advanced).trans (beginning_offset _ _ _)
  have unitOffset : (stop.plus (-1)).offset = t.offset := sameOffset
  have lastClock : (stop.plus (-1)).clock = stop.clock - 1 := by
    simp only [Timestamp.clock, Timestamp.plus]
    omega
  have longer := Anchor.startOf_lt_succ anchor weekStart (anchor.ordinal weekStart t.clock)
  have reached : (beginning anchor.unit weekStart t).instant ≤ (stop.plus (-1)).instant := by
    rw [← Timestamp.clock_le_clock_iff ((beginning_offset _ _ _).trans unitOffset.symm), lastClock,
      opens, ends]
    exact Int.le_sub_one_of_lt longer
  refine ⟨?_, ?_, beginning_eq_of_ordinal begun unitOffset (Anchor.ordinal_eq ?_ ?_)⟩
  · rw [← Timestamp.clock_lt_clock_iff sameOffset.symm, ends, ← not_le, Anchor.startOf_le_iff]
    omega
  · exact Anchor.inCalendar_of_unit (beginning_inCalendar within) opens advanced
      (unitOffset.trans (beginning_offset _ _ _).symm) reached (Int.sub_one_lt_of_le le_rfl)
  · rw [lastClock, ends]
    exact Int.le_sub_one_of_lt longer
  · rw [lastClock, ends]
    exact Int.sub_one_lt_of_le le_rfl

/-- If the first tile holds the first point, the first point of the bins is its last moment. -/
theorem head?_reduceAll {tile : Tile} (head : points.head? = some first)
    (inside : (prefs.shift first.timestamp).instant < tile.stop.instant) (laid : List Tile)
    (r : Reduction) (fallback : Option Number) :
    ∃ q, (Bin.reduceAll r fallback (fill prefs (tile :: laid) points)).head? = some q ∧
      prefs.shift q.timestamp = tile.stop.plus (-1) := by
  obtain ⟨others, rfl⟩ := List.head?_eq_some_iff.mp head
  rw [fill, List.takeWhile_cons_of_pos (by exact decide_eq_true inside), Bin.reduceAll_cons]
  generalize hbin : Bin.mk (prefs.stamp tile.stop) "" _ = bin
  have held : bin.parents ≠ [] := hbin ▸ List.cons_ne_nil _ _
  obtain ⟨q, reduced⟩ := Bin.exists_reduce? r fallback held
  refine ⟨q, by rw [reduced]; rfl, ?_⟩
  rw [Bin.timestamp_of_reduce? reduced, ← hbin, Preferences.shift_stamp]

/-- The first bin holds the first point. It is reduced to a point of the same unit, so the windows
begin with that unit again. -/
theorem fixed_reduceAll_unit (opened : prefs.endTime = none) (sorted : Series.Ascending points)
    (head : points.head? = some first)
    (begun : anchor.BeginsWithin prefs.firstDayOfWeek (prefs.shift first.timestamp))
    (h : fixed anchor.unit prefs none points = .ok bins) (r : Reduction)
    (fallback : Option Number) :
    fixed anchor.unit prefs none (Bin.reduceAll r fallback bins) =
      .ok (bins.map (Bin.collapse r fallback)) := by
  have nonempty := List.ne_nil_of_mem (List.mem_of_head? head)
  have found : earliest? prefs none points = some (prefs.shift first.timestamp) :=
    earliest?_none head
  obtain ⟨within, laid, ok, filled⟩ := exists_tiles_of_fixed found h
  obtain ⟨stop, laidOut, beyond⟩ := laid_of_tiles ok
  cases laid with
  | nil =>
    cases laidOut
    have covered := (le_latest sorted (List.mem_of_head? head)).trans_lt beyond
    exact absurd covered (not_lt.mpr (beginning_le _ _ _))
  | cons tile rest =>
    obtain ⟨begins, advanced, -, -⟩ := laidOut
    rw [begins] at advanced
    obtain ⟨inside, last, together⟩ := lastMoment_of_unit within begun advanced
    obtain ⟨q, first', shifted⟩ := head?_reduceAll head inside rest r fallback
    rw [← filled] at first'
    rw [← shifted] at last together
    exact fixed_reduceAll found opened sorted nonempty h (earliest?_none first') last together

/-! ## All windows -/

/-- The points of bins, binned with the same settings, give the same bins. The points of a bin are
now the points with its timestamp: the one that it was reduced to, or none if it was left out. -/
structure Rebins (window : TimeAmount) (prefs : Preferences) (hardStart : Option Timestamp)
    (bins : List Bin) (r : Reduction) (fallback : Option Number) : Prop where
  again : fixed window prefs hardStart (Bin.reduceAll r fallback bins) =
    .ok (bins.map (Bin.collapse r fallback))
  own : ∀ bin ∈ bins, (Bin.reduceAll r fallback bins).filter (fun p => p.timestamp = bin.timestamp) =
    (bin.collapse r fallback).parents

/-- Binning is idempotent with a hard start that is not after the first point, on the same clock.
For windows of one unit it is so without a hard start too, if the unit of the first point begins
within the calendar. -/
theorem fixed_rebins (points : List Point) (prefs : Preferences) (first : Point)
    (sorted : Series.Ascending points) (head : points.head? = some first)
    (opened : prefs.endTime = none) :
    (∀ (window : TimeAmount) (start : Timestamp) (bins : List Bin),
      start.instant ≤ first.timestamp.instant → start.offset = first.timestamp.offset →
      fixed window prefs (some start) points = .ok bins →
      ∀ r fallback, Rebins window prefs (some start) bins r fallback) ∧
    ∀ (anchor : Anchor) (bins : List Bin),
      anchor.BeginsWithin prefs.firstDayOfWeek (prefs.shift first.timestamp) →
      fixed anchor.unit prefs none points = .ok bins →
      ∀ r fallback, Rebins anchor.unit prefs none bins r fallback := by
  constructor
  · intro window start bins before offset h r fallback
    exact ⟨fixed_reduceAll_hardStart opened sorted head before offset h r fallback,
      fun bin mem => Bin.filter_reduceAll (timestamp_pairwise_fixed h) mem⟩
  · intro anchor bins begun h r fallback
    exact ⟨fixed_reduceAll_unit opened sorted head begun h r fallback,
      fun bin mem => Bin.filter_reduceAll (timestamp_pairwise_fixed h) mem⟩

/-- The points of `quarterTurn` in windows of ten days from February on, two of which end before the
hard start, and in quarters. -/
theorem fixed_rebins_quarterTurn :
    ∃ tenDays quarters, fixed (.period ⟨0, 0, 10⟩) .default (some ⟨1709000000000000000, 3600⟩)
        quarterTurn = .ok tenDays ∧
      fixed Anchor.quarter.unit .default none quarterTurn = .ok quarters ∧
      tenDays.length = 7 ∧ quarters.length = 2 ∧
      (∀ r fallback, Rebins (.period ⟨0, 0, 10⟩) .default (some ⟨1709000000000000000, 3600⟩) tenDays
        r fallback) ∧
      ∀ r fallback, Rebins Anchor.quarter.unit .default none quarters r fallback := by
  have sorted : Series.Ascending quarterTurn := by
    simp [Series.Ascending, quarterTurn]
  have seven : (fixed (.period ⟨0, 0, 10⟩) .default (some ⟨1709000000000000000, 3600⟩)
      quarterTurn).toOption.map List.length = some 7 := by
    decide +kernel
  have two : (fixed Anchor.quarter.unit .default none quarterTurn).toOption.map List.length =
      some 2 := by
    decide +kernel
  obtain ⟨tenDays, h, length⟩ := exists_bins seven
  obtain ⟨quarters, h', length'⟩ := exists_bins two
  obtain ⟨hard, units⟩ := fixed_rebins quarterTurn .default _ sorted rfl rfl
  refine ⟨tenDays, quarters, h, h', length, length', ?_, ?_⟩
  · exact hard _ ⟨1709000000000000000, 3600⟩ tenDays (by decide) rfl h
  · exact units .quarter quarters (by decide +kernel) h'

def loneThursday : List Point := [⟨firstThursday, .ofFloat 1, "a"⟩]

/-- A week that is cut by the start of the calendar is seven days long all the same. Its last moment
lies in the next week, where the windows begin when the points of the bins are binned. -/
theorem not_fixed_rebins_loneThursday :
    ¬ ∀ (points : List Point) (prefs : Preferences) (anchor : Anchor) (bins : List Bin)
      (r : Reduction) (fallback : Option Number), points ≠ [] → Series.Ascending points →
      (∀ p ∈ points, ∀ q ∈ points, p.timestamp.offset = q.timestamp.offset) → prefs.endTime = none →
      fixed anchor.unit prefs none points = .ok bins →
      Rebins anchor.unit prefs none bins r fallback := by
  intro claimed
  have sorted : Series.Ascending loneThursday := List.pairwise_singleton _ _
  have together : ∀ p ∈ loneThursday, ∀ q ∈ loneThursday, p.timestamp.offset = q.timestamp.offset := by
    decide
  have once : (fixed Anchor.week.unit .default none loneThursday).toOption.map
      (List.map Bin.timestamp) = some [⟨-8334600624000000000001, 0⟩] := by
    decide +kernel
  have twice : ((fixed Anchor.week.unit .default none loneThursday).toOption.bind fun bins =>
      (fixed Anchor.week.unit .default none (Bin.reduceAll .earliest none bins)).toOption).map
        (List.map Bin.timestamp) = some [⟨-8334600278400000000001, 0⟩] := by
    decide +kernel
  obtain ⟨bins, h, stamps⟩ := exists_bins once
  have rebins := claimed loneThursday .default .week bins .earliest none (List.cons_ne_nil _ _)
    sorted together rfl h
  have kept : (bins.map (Bin.collapse .earliest none)).map Bin.timestamp =
      bins.map Bin.timestamp := by
    rw [List.map_map]
    rfl
  rw [h] at twice
  have second : (fixed Anchor.week.unit .default none
      (Bin.reduceAll .earliest none bins)).toOption.map (List.map Bin.timestamp) =
        some [⟨-8334600278400000000001, 0⟩] := twice
  rw [rebins.again] at second
  have moved := Option.some.inj second
  rw [kept, stamps] at moved
  exact absurd moved (by decide)

end SeriesScript.Window
