import SeriesScript.Proofs.Window.Starts
import SeriesScript.Proofs.Window.Units

/-!
# Bins of calendar units

Windows of one unit that are laid end to end from the start of a unit are the units of the calendar:
stepping from one to the next and truncating a time agree on where units start. So two points share
a bin exactly if they lie in the same unit. Only the first unit of the calendar may be cut, and then
all windows are laid from the cut on.
-/
namespace SeriesScript.Window

variable {anchor : Anchor} {prefs : Preferences} {hardStart : Option Timestamp}
  {earliest : Timestamp} {points : List Point} {bins : List Bin} {s : Nat → Timestamp} {i : Nat}

/-- The time of a point on the shifted clock, as it is shown at an offset. -/
def Preferences.localTime (prefs : Preferences) (offset : Int) (p : Point) : Int :=
  Timestamp.clock ⟨(prefs.shift p.timestamp).instant, offset⟩

/-- Bins that are the units of the calendar, at the offset of the earliest time. -/
structure AlongUnits (anchor : Anchor) (prefs : Preferences) (earliest : Timestamp)
    (bins : List Bin) (s : Nat → Timestamp) : Prop where
  starts : Starts anchor.unit prefs earliest bins s
  offset_eq : ∀ i < bins.length, (s i).offset = earliest.offset
  floor_start : ∀ i < bins.length,
    anchor.floor prefs.firstDayOfWeek (s i).clock = (s i).clock
  floor_point : ∀ i (hi : i < bins.length), ∀ p ∈ bins[i].parents,
    anchor.floor prefs.firstDayOfWeek (prefs.localTime earliest.offset p) = (s i).clock
  shared : ∀ i (hi : i < bins.length), ∀ j (hj : j < bins.length),
    ∀ p ∈ bins[i].parents, ∀ q ∈ bins[j].parents,
      (i = j ↔ anchor.ordinal prefs.firstDayOfWeek (prefs.localTime earliest.offset p) =
        anchor.ordinal prefs.firstDayOfWeek (prefs.localTime earliest.offset q))

/-- The windows are consecutive units, if the first one is a unit. -/
theorem Starts.clock_eq (h : Starts anchor.unit prefs earliest bins s)
    (within : anchor.BeginsWithin prefs.firstDayOfWeek earliest) (hi : i ≤ bins.length) :
    (s i).clock = anchor.startOf prefs.firstDayOfWeek
      (anchor.ordinal prefs.firstDayOfWeek earliest.clock + i) := by
  induction i with
  | zero =>
    rw [h.begins, Anchor.clock_beginning within]
    simp
  | succ i ih =>
    rw [Anchor.clock_of_advance? (ih (by omega)) (h.next i hi)]
    congr 1
    omega

/-- At one offset, clocks tell times apart as instants do. -/
theorem localTime_bounds {p : Point} {start stop : Timestamp} {offset : Int}
    (low : start.instant ≤ (prefs.shift p.timestamp).instant)
    (high : (prefs.shift p.timestamp).instant < stop.instant)
    (hstart : start.offset = offset) (hstop : stop.offset = offset) :
    start.clock ≤ prefs.localTime offset p ∧ prefs.localTime offset p < stop.clock := by
  simp only [Preferences.localTime, Timestamp.clock, hstart, hstop]
  omega

/-- A point of a bin lies in the unit that the bin is. -/
theorem Starts.ordinal_eq (h : Starts anchor.unit prefs earliest bins s)
    (within : anchor.BeginsWithin prefs.firstDayOfWeek earliest) (hi : i < bins.length) {p : Point}
    (low : (s i).instant ≤ (prefs.shift p.timestamp).instant)
    (high : (prefs.shift p.timestamp).instant < (s (i + 1)).instant) :
    anchor.ordinal prefs.firstDayOfWeek (prefs.localTime earliest.offset p) =
      anchor.ordinal prefs.firstDayOfWeek earliest.clock + i := by
  obtain ⟨reached, before⟩ := localTime_bounds low high (h.offset_eq hi.le) (h.offset_eq hi)
  rw [h.clock_eq within hi.le] at reached
  rw [h.clock_eq within hi] at before
  refine Anchor.ordinal_eq reached ?_
  rw [add_assoc]
  exact_mod_cast before

/-- Bins of windows of one unit are the units of the calendar, one after the other, if the unit that
holds the earliest time begins within the calendar. Each starts where truncation leaves its start,
and where it takes the local times of its points; so points share a bin exactly if they lie in the
same hour, day, week, month, quarter, half year or year. -/
theorem fixed_alongUnits (anchor : Anchor) (prefs : Preferences) (hardStart : Option Timestamp)
    (points : List Point) (bins : List Bin) (sorted : Series.Ascending points)
    (h : fixed anchor.unit prefs hardStart points = .ok bins) :
    bins.flatMap Bin.parents = points ∧
    (earliest? prefs hardStart points = none → bins = []) ∧
    ∀ earliest, earliest? prefs hardStart points = some earliest →
      anchor.BeginsWithin prefs.firstDayOfWeek earliest →
      ∃ s, AlongUnits anchor prefs earliest bins s := by
  refine ⟨flatMap_parents_fixed h sorted, fun none => ?_, fun earliest found within => ?_⟩
  · rcases tiles_of_fixed h with ⟨-, empty⟩ | ⟨_, _, some, -⟩
    · exact empty
    · rw [none] at some
      cases some
  obtain ⟨s, starts, -, inside⟩ := exists_starts h found sorted
  -- all units from the first one on begin within the calendar, so truncation does not cut them
  have dated (i : Nat) : Calendar.firstDay * nanosPerDay ≤ anchor.startOf prefs.firstDayOfWeek
      (anchor.ordinal prefs.firstDayOfWeek earliest.clock + i) :=
    within.1.trans (Anchor.startOf_mono _ (by omega))
  have unit_eq (i : Nat) (hi : i < bins.length) (p : Point) (mem : p ∈ bins[i].parents) :
      anchor.ordinal prefs.firstDayOfWeek (prefs.localTime earliest.offset p) =
        anchor.ordinal prefs.firstDayOfWeek earliest.clock + i :=
    have ⟨low, high⟩ := (inside i hi).2 p mem
    starts.ordinal_eq within hi low high
  refine ⟨s, starts, fun i hi => starts.offset_eq hi.le, fun i hi => ?_, ?_, ?_⟩
  · rw [starts.clock_eq within hi.le, Anchor.floor_startOf (dated i)]
  · intro i hi p mem
    rw [starts.clock_eq within hi.le, Anchor.floor_eq_startOf]
    · rw [unit_eq i hi p mem]
    · rw [unit_eq i hi p mem]
      exact dated i
  · intro i hi j hj p hp q hq
    rw [unit_eq i hi p hp, unit_eq j hj q hq]
    omega

/-- Three points around the end of March. On the clock of the first one, the last one is of April.
-/
def quarterTurn : List Point :=
  [⟨⟨1709204400000000000, 3600⟩, .ofFloat 1, "a"⟩, ⟨⟨1711924200000000000, 0⟩, .ofFloat 2, "b"⟩,
    ⟨⟨1711927800000000000, 0⟩, .ofFloat 3, "c"⟩]

theorem fixed_alongUnits_quarterTurn :
    ∃ bins s, fixed Anchor.quarter.unit .default none quarterTurn = .ok bins ∧ bins.length = 2 ∧
      AlongUnits .quarter .default ⟨1709204400000000000, 3600⟩ bins s := by
  have sorted : Series.Ascending quarterTurn := by
    simp [Series.Ascending, quarterTurn]
  have length : (fixed Anchor.quarter.unit .default none quarterTurn).toOption.map List.length =
      some 2 := by
    decide +kernel
  generalize h : fixed _ _ _ quarterTurn = r at length ⊢
  cases r with
  | error e => cases length
  | ok bins =>
    obtain ⟨s, along⟩ := (fixed_alongUnits _ _ _ _ bins sorted h).2.2 _ rfl
      (Anchor.beginsWithin_of_le (by decide) (by decide) (by decide))
    exact ⟨bins, s, rfl, Option.some.inj length, along⟩

def firstWeeks : List Point :=
  [⟨⟨-8334601185600000000000, 0⟩, .ofFloat 1, "a"⟩, ⟨⟨-8334600840000000000000, 0⟩, .ofFloat 2, "b"⟩]

/-- A week that starts before the calendar is cut to the day of the earliest time, and the weeks
that follow start on its weekday: here one bin holds a Thursday and the Monday after it. -/
theorem not_fixed_alongUnits_firstWeeks :
    ¬ ∀ (anchor : Anchor) (prefs : Preferences) (hardStart : Option Timestamp)
      (points : List Point) (bins : List Bin) (earliest : Timestamp),
      Series.Ascending points → fixed anchor.unit prefs hardStart points = .ok bins →
      earliest? prefs hardStart points = some earliest →
      ∃ s, AlongUnits anchor prefs earliest bins s := by
  intro claimed
  have sorted : Series.Ascending firstWeeks := by
    simp [Series.Ascending, firstWeeks]
  have length : (fixed Anchor.week.unit .default none firstWeeks).toOption.map List.length =
      some 1 := by
    decide +kernel
  generalize h : fixed _ _ _ firstWeeks = r at length
  cases r with
  | error e => cases length
  | ok bins =>
    obtain ⟨s, along⟩ := claimed _ _ _ _ bins _ sorted h rfl
    obtain ⟨bin, rfl⟩ := List.length_eq_one_iff.mp (Option.some.inj length)
    have held : bin.parents = firstWeeks := by
      simpa using flatMap_parents_fixed h sorted
    have floors (p : Point) (mem : p ∈ firstWeeks) :=
      along.floor_point 0 Nat.one_pos p (held ▸ mem)
    have thursday := floors _ (List.mem_cons_self ..)
    have monday := floors _ (List.mem_cons_of_mem _ List.mem_cons_self)
    exact absurd (thursday.trans monday.symm) (by decide +kernel)

end SeriesScript.Window
