import SeriesScript.Proofs.Window.Reduced

/-!
# Windows at the end of the calendar

Windows are laid on a clock that is set back by the start of the day. A step that leads out of the
calendar is refused there, before the end of its window is stamped. The stamp is set forward again,
and so a window can end within the calendar and be stamped behind it. Among times whose years have
four digits, only the last window of a run can do so: one of hundreds of thousands of years that
ends less than the start of a day before the calendar does.
-/
namespace SeriesScript

open Calendar

namespace Timestamp

variable {t : Timestamp}

/-- The instant at which the calendar ends, on a clock without offset. -/
def calendarEnd : Int := (lastDay + 1) * nanosPerDay

/-- A timestamp that is written with four digits for its year, on clocks that are less than a day
ahead or behind. -/
structure FourDigitYear (t : Timestamp) : Prop where
  begun : yearStart 0 ≤ t.day
  ended : t.day < yearStart 10000
  offset : t.offset.natAbs < 86400

theorem FourDigitYear.clock_bounds (h : t.FourDigitYear) :
    yearStart 0 * nanosPerDay ≤ t.clock ∧ t.clock < yearStart 10000 * nanosPerDay :=
  ⟨(Int.le_ediv_iff_mul_le (by decide)).mp h.begun, (Int.ediv_lt_iff_lt_mul (by decide)).mp h.ended⟩

/-- Its instant is less than a day away from what its clock shows. -/
theorem FourDigitYear.instant_bounds (h : t.FourDigitYear) :
    (yearStart 0 - 1) * nanosPerDay < t.instant ∧
      t.instant < (yearStart 10000 + 1) * nanosPerDay := by
  have shown := h.clock_bounds
  have near := h.offset
  rw [clock, nanosPerSecond] at shown
  rw [Int.sub_mul, Int.add_mul, nanosPerDay] at *
  omega

end Timestamp

namespace Window

variable {window : TimeAmount} {prefs : Preferences} {hardStart : Option Timestamp}
  {earliest latest start stop t : Timestamp} {laid : List Tile} {points : List Point}

def Preferences.StartsWithinDay (prefs : Preferences) : Prop :=
  0 ≤ prefs.startOfDay.nanos ∧ prefs.startOfDay.nanos < nanosPerDay

/-- Windows from `start` on, none of which begins after the latest time, lead to the end of one that
is stamped behind the calendar. -/
def LeadsBeyond (window : TimeAmount) (prefs : Preferences) (latest start : Timestamp) : Prop :=
  ∃ laid stop, Laid window start laid stop ∧
    (∀ tile ∈ laid, tile.start.instant ≤ latest.instant) ∧
    Timestamp.calendarEnd < stop.instant + prefs.startOfDay.nanos

/-! ## Tiles -/

theorem representable_stamp_iff (day : prefs.StartsWithinDay)
    (within : Timestamp.representable start.instant) (forward : start.instant < stop.instant) :
    Timestamp.representable (prefs.stamp stop).instant ↔
      stop.instant + prefs.startOfDay.nanos ≤ Timestamp.calendarEnd := by
  obtain ⟨forth, -⟩ := day
  rw [Timestamp.representable_iff] at within ⊢
  rw [Preferences.stamp_instant, Timestamp.calendarEnd]
  omega

theorem tiles_error {e : ScriptError} (h : tiles window prefs latest start = .error e) :
    e = .invalidArgument .windowOutOfRange ∨ e = .invalidArgument .windowNotPositive ∨
      e = .calendarExceeded := by
  fun_induction tiles window prefs latest start with
  | case1 =>
    cases h
    exact .inl rfl
  | case3 _ _ _ _ _ _ _ failed ih =>
    cases h
    exact ih failed
  | case4 =>
    cases h
    exact .inr (.inr rfl)
  | case5 =>
    cases h
    exact .inr (.inl rfl)
  | _ => cases h

theorem leadsBeyond_of_tiles (day : prefs.StartsWithinDay)
    (within : Timestamp.representable start.instant)
    (h : tiles window prefs latest start = .error .calendarExceeded) :
    LeadsBeyond window prefs latest start := by
  fun_induction tiles window prefs latest start with
  | case3 start before stop advanced forward _ _ failed ih =>
    cases h
    obtain ⟨laid, last, later, begun, beyond⟩ :=
      ih (representable_of_advance? within advanced) failed
    exact ⟨⟨start, stop⟩ :: laid, last, ⟨rfl, advanced, forward, later⟩,
      List.forall_mem_cons.mpr ⟨before, begun⟩, beyond⟩
  | case4 start before stop advanced forward unstamped =>
    rw [representable_stamp_iff day within forward, not_le] at unstamped
    exact ⟨[⟨start, stop⟩], stop, ⟨rfl, advanced, forward, rfl⟩, by simpa using before, unstamped⟩
  | _ => cases h

theorem tiles_of_leadsBeyond (day : prefs.StartsWithinDay)
    (within : Timestamp.representable start.instant)
    (stamped : start.instant + prefs.startOfDay.nanos ≤ Timestamp.calendarEnd)
    (h : LeadsBeyond window prefs latest start) :
    tiles window prefs latest start = .error .calendarExceeded := by
  obtain ⟨laid, stop, laidOut, begun, beyond⟩ := h
  induction laid generalizing start with
  | nil =>
    cases laidOut
    exact absurd beyond (not_lt.mpr stamped)
  | cons tile rest ih =>
    obtain ⟨rfl, advanced, forward, later⟩ := laidOut
    obtain ⟨before, begun⟩ := List.forall_mem_cons.mp begun
    have stampedIff := representable_stamp_iff day within forward
    rw [tiles, dif_pos before]
    simp only [advanced, forward, ↓reduceDIte]
    split
    · rename_i next
      rw [ih (representable_of_advance? within advanced) (stampedIff.mp next) later begun]
    · rfl

/-! ## Times with years of four digits -/

theorem firstDay_eq : firstDay = -96465292 := by decide

theorem lastDay_eq : lastDay = 95026236 := by decide

/-- A time with a year of four digits can be set back by the start of the day. -/
theorem shift_inCalendar (day : prefs.StartsWithinDay) (h : t.FourDigitYear) :
    (prefs.shift t).InCalendar := by
  have low : yearStart 0 = -719528 := by decide
  have high : yearStart 10000 = 2932897 := by decide
  have instant := h.instant_bounds
  have shown := h.clock_bounds
  obtain ⟨forward, within⟩ := day
  rw [Timestamp.InCalendar, Timestamp.hasDate_day_iff, Timestamp.representable_iff,
    Timestamp.representable_iff]
  simp only [Timestamp.clock, Preferences.shift_instant, Preferences.shift_offset, firstDay_eq,
    lastDay_eq, low, high, nanosPerDay] at *
  omega

structure FourDigitYears (prefs : Preferences) (hardStart : Option Timestamp)
    (points : List Point) : Prop where
  points : ∀ p ∈ points, p.timestamp.FourDigitYear
  hardStart : ∀ t, hardStart = some t → t.FourDigitYear
  endTime : ∀ t, prefs.endTime = some t → t.FourDigitYear

theorem FourDigitYears.exists_earliest (h : FourDigitYears prefs hardStart points)
    (found : earliest? prefs hardStart points = some earliest) :
    ∃ t : Timestamp, t.FourDigitYear ∧ earliest = prefs.shift t := by
  rcases earliest?_mem found with ⟨p, mem, rfl⟩ | ⟨t, given, rfl⟩
  · exact ⟨p.timestamp, h.points p mem, rfl⟩
  · exact ⟨t, h.hardStart t given, rfl⟩

theorem FourDigitYears.latest_lt (h : FourDigitYears prefs hardStart points)
    (day : prefs.StartsWithinDay) (found : earliest? prefs hardStart points = some earliest) :
    (Window.latest prefs points earliest).instant < (yearStart 10000 + 1) * nanosPerDay := by
  have back {t : Timestamp} (written : t.FourDigitYear) :
      (prefs.shift t).instant < (yearStart 10000 + 1) * nanosPerDay := by
    have := written.instant_bounds.2
    have := day.1
    rw [Preferences.shift_instant]
    omega
  have last (p : Point) (hlast : points.getLast? = some p) :=
    back (h.points p (List.mem_of_getLast? hlast))
  rw [Window.latest]
  cases hlast : points.getLast? with
  | none =>
    cases given : prefs.endTime with
    | none =>
      obtain ⟨t, written, rfl⟩ := h.exists_earliest found
      exact back written
    | some t => exact (h.endTime t given).instant_bounds.2
  | some p =>
    cases given : prefs.endTime with
    | none => exact last p hlast
    | some t =>
      simp only [Option.map_some, Timestamp.later_instant, max_lt_iff]
      exact ⟨last p hlast, (h.endTime t given).instant_bounds.2⟩

/-- The first window begins far from the end of the calendar, so its beginning can be stamped. -/
theorem FourDigitYears.beginning_stamped (h : FourDigitYears prefs hardStart points)
    (window : TimeAmount) (day : prefs.StartsWithinDay) (found : earliest? prefs hardStart points = some earliest) :
    (beginning window prefs.firstDayOfWeek earliest).instant + prefs.startOfDay.nanos ≤
      Timestamp.calendarEnd := by
  obtain ⟨t, written, rfl⟩ := h.exists_earliest found
  have high : yearStart 10000 = 2932897 := by decide
  have begun := beginning_le window prefs.firstDayOfWeek (prefs.shift t)
  have bound := written.instant_bounds.2
  rw [Preferences.shift_instant] at begun
  rw [Timestamp.calendarEnd, lastDay_eq]
  rw [high] at bound
  have := day.1
  rw [nanosPerDay] at *
  omega

theorem fixed_eq_calendarExceeded_iff (window : TimeAmount) (day : prefs.StartsWithinDay)
    (h : FourDigitYears prefs hardStart points) :
    fixed window prefs hardStart points = .error .calendarExceeded ↔
      ∃ earliest, earliest? prefs hardStart points = some earliest ∧
        LeadsBeyond window prefs (Window.latest prefs points earliest)
          (beginning window prefs.firstDayOfWeek earliest) := by
  cases found : earliest? prefs hardStart points with
  | none => simp [fixed, found]
  | some earliest =>
    obtain ⟨t, written, rfl⟩ := h.exists_earliest found
    have within := shift_inCalendar day written
    have begun : (beginning window prefs.firstDayOfWeek (prefs.shift t)).InCalendar :=
      beginning_inCalendar within
    rw [fixed, found]
    simp only [within.1, within.2, Bool.and_self, ↓reduceIte, Option.some.injEq, exists_eq_left']
    constructor
    · intro failed
      split at failed
      · cases failed
      · rename_i e tilesFailed
        cases failed
        exact leadsBeyond_of_tiles day begun.1 tilesFailed
    · intro beyond
      rw [tiles_of_leadsBeyond day begun.1 (h.beginning_stamped window day found) beyond]

theorem fixed_error {e : ScriptError} (day : prefs.StartsWithinDay)
    (h : FourDigitYears prefs hardStart points)
    (failed : fixed window prefs hardStart points = .error e) :
    e = .invalidArgument .windowOutOfRange ∨ e = .invalidArgument .windowNotPositive ∨
      e = .calendarExceeded := by
  rw [fixed] at failed
  split at failed
  · cases failed
  · rename_i found
    obtain ⟨t, written, rfl⟩ := h.exists_earliest found
    have within := shift_inCalendar day written
    simp only [within.1, within.2, Bool.and_self, ↓reduceIte] at failed
    split at failed
    · cases failed
    · rename_i e' tilesFailed
      cases failed
      exact tiles_error tilesFailed

theorem representable_of_mem_fixed {bins : List Bin} {bin : Bin}
    (h : fixed window prefs hardStart points = .ok bins) (mem : bin ∈ bins) :
    Timestamp.representable bin.timestamp.instant := by
  rcases tiles_of_fixed h with ⟨-, rfl⟩ | ⟨_, laid, -, ok, rfl⟩
  · cases mem
  · obtain ⟨tile, here, stamped⟩ := timestamp_of_mem_fill mem
    rw [stamped]
    exact (within_of_mem_tiles ok here).2

/-! ## The window that is stamped behind the calendar -/

theorem Laid.representable_stop (h : Laid window start laid stop)
    (within : Timestamp.representable start.instant) : Timestamp.representable stop.instant := by
  induction laid generalizing start with
  | nil => exact h ▸ within
  | cons tile rest ih =>
    obtain ⟨rfl, advanced, -, later⟩ := h
    exact ih later (representable_of_advance? within advanced)

theorem Laid.exists_last (h : Laid window start laid stop) (moved : start ≠ stop) :
    ∃ tile ∈ laid, advance? window tile.start = some stop := by
  induction laid generalizing start with
  | nil => exact absurd h moved
  | cons tile rest ih =>
    obtain ⟨rfl, advanced, -, later⟩ := h
    by_cases last : tile.stop = stop
    · exact ⟨tile, List.mem_cons_self, last ▸ advanced⟩
    · obtain ⟨final, mem, ends⟩ := ih later last
      exact ⟨final, List.mem_cons_of_mem _ mem, ends⟩

/-- Only a window that ends on the last day of the calendar is stamped behind it, and among times
with years of four digits that is one of more than 252000 years. -/
theorem exists_long_window (day : prefs.StartsWithinDay)
    (h : FourDigitYears prefs hardStart points)
    (found : earliest? prefs hardStart points = some earliest)
    (beyond : LeadsBeyond window prefs (Window.latest prefs points earliest)
      (beginning window prefs.firstDayOfWeek earliest)) :
    1 < prefs.startOfDay.nanos ∧ ∃ start stop, advance? window start = some stop ∧
      start.instant + 252000 * Period.secondsPerYear * nanosPerSecond < stop.instant := by
  obtain ⟨laid, stop, laidOut, begun, past⟩ := beyond
  have stamped := h.beginning_stamped window day found
  have moved : beginning window prefs.firstDayOfWeek earliest ≠ stop := by
    rintro rfl
    omega
  obtain ⟨tile, mem, advanced⟩ := laidOut.exists_last moved
  have first : Timestamp.representable (beginning window prefs.firstDayOfWeek earliest).instant := by
    obtain ⟨t, written, rfl⟩ := h.exists_earliest found
    exact (beginning_inCalendar (shift_inCalendar day written)).1
  have reached := laidOut.representable_stop first
  rw [Timestamp.representable_iff] at reached
  have high : yearStart 10000 = 2932897 := by decide
  have early := (begun tile mem).trans_lt (h.latest_lt day found)
  have short := day.2
  rw [Timestamp.calendarEnd] at past
  refine ⟨by omega, tile.start, stop, advanced, ?_⟩
  rw [lastDay_eq] at past
  rw [high] at early
  rw [Period.secondsPerYear, nanosPerSecond]
  rw [nanosPerDay] at *
  omega

/-- Fixed windows over times with years of four digits stay within the calendar, or are refused as
out of range, with one exception: a run is cut short exactly if its last window ends less than the
start of the day before the end of the calendar. Such a window is longer than 252000 years. -/
theorem fixed_within_calendar (window : TimeAmount) (prefs : Preferences)
    (hardStart : Option Timestamp) (points : List Point) (day : prefs.StartsWithinDay)
    (written : FourDigitYears prefs hardStart points) :
    (∀ p ∈ points, Timestamp.representable (prefs.shift p.timestamp).instant) ∧
    (∀ t, hardStart = some t → Timestamp.representable (prefs.shift t).instant) ∧
    ((∃ bins, fixed window prefs hardStart points = .ok bins ∧
        ∀ bin ∈ bins, Timestamp.representable bin.timestamp.instant) ∨
      fixed window prefs hardStart points = .error (.invalidArgument .windowOutOfRange) ∨
      fixed window prefs hardStart points = .error (.invalidArgument .windowNotPositive) ∨
      fixed window prefs hardStart points = .error .calendarExceeded) ∧
    (fixed window prefs hardStart points = .error .calendarExceeded ↔
      ∃ earliest, earliest? prefs hardStart points = some earliest ∧
        LeadsBeyond window prefs (Window.latest prefs points earliest)
          (beginning window prefs.firstDayOfWeek earliest)) ∧
    (fixed window prefs hardStart points = .error .calendarExceeded →
      1 < prefs.startOfDay.nanos ∧ ∃ start stop, advance? window start = some stop ∧
        start.instant + 252000 * Period.secondsPerYear * nanosPerSecond < stop.instant) := by
  have exceeded := fixed_eq_calendarExceeded_iff window day written
  refine ⟨fun p mem => ?_, fun t given => ?_, ?_, exceeded, fun failed => ?_⟩
  · exact (shift_inCalendar day (written.points p mem)).1
  · exact (shift_inCalendar day (written.hardStart t given)).1
  · cases result : fixed window prefs hardStart points with
    | ok bins => exact .inl ⟨bins, rfl, fun bin mem => representable_of_mem_fixed result mem⟩
    | error e => rcases fixed_error day written result with rfl | rfl | rfl <;> simp
  · obtain ⟨earliest, found, beyond⟩ := exceeded.mp failed
    exact exists_long_window day written found beyond

def fromEvening : Preferences := ⟨.monday, ⟨64800000000000, by decide⟩, none⟩

/-- The time from the beginning of 2024 to noon on the last day of the calendar. -/
def toLastNoon : TimeAmount := .duration ⟨8208562766400000000000, by decide⟩

theorem fourDigitYears_mayDay : FourDigitYears fromEvening none mayDay where
  points p mem := by
    rw [List.mem_singleton.mp mem]
    constructor <;> decide
  hardStart t given := by cases given
  endTime t given := by cases given

theorem fixed_within_calendar_lastNoon :
    fromEvening.StartsWithinDay ∧ FourDigitYears fromEvening none mayDay ∧
      fixed toLastNoon fromEvening none mayDay = .error .calendarExceeded := by
  have day : fromEvening.StartsWithinDay := by
    constructor <;> decide
  have earliest : earliest? fromEvening none mayDay = some ⟨1714492800000000000, 0⟩ := rfl
  have begins : beginning toLastNoon .monday ⟨1714492800000000000, 0⟩ =
      ⟨1704067200000000000, 0⟩ := by
    decide +kernel
  have advanced : advance? toLastNoon ⟨1704067200000000000, 0⟩ =
      some ⟨8210266833600000000000, 0⟩ := by
    decide +kernel
  have beyond : LeadsBeyond toLastNoon fromEvening
      (Window.latest fromEvening mayDay ⟨1714492800000000000, 0⟩)
      (beginning toLastNoon .monday ⟨1714492800000000000, 0⟩) := by
    rw [begins]
    exact ⟨[⟨⟨1704067200000000000, 0⟩, ⟨8210266833600000000000, 0⟩⟩], _,
      ⟨rfl, advanced, by decide, rfl⟩, by simp; decide, by decide⟩
  obtain ⟨-, -, -, exceeded, -⟩ :=
    fixed_within_calendar toLastNoon fromEvening none mayDay day fourDigitYears_mayDay
  exact ⟨day, fourDigitYears_mayDay, exceeded.mpr ⟨_, earliest, beyond⟩⟩

/-- The end of a window may be in range and its stamp not: the days of this run start at six in the
evening, and its only window ends at noon on the last day of the calendar. -/
theorem not_fixed_within_calendar_lastNoon :
    ¬ ∀ (window : TimeAmount) (prefs : Preferences) (hardStart : Option Timestamp)
      (points : List Point) (length : Duration), positiveLength window = .ok length →
      prefs.StartsWithinDay → FourDigitYears prefs hardStart points → Series.Ascending points →
      (∃ bins, fixed window prefs hardStart points = .ok bins ∧
        ∀ bin ∈ bins, Timestamp.representable bin.timestamp.instant) ∨
      ∃ fault, fixed window prefs hardStart points = .error (.invalidArgument fault) := by
  intro claimed
  have exceeded : (match fixed toLastNoon fromEvening none mayDay with
      | .error .calendarExceeded => true
      | _ => false) = true := by
    decide +kernel
  have day : fromEvening.StartsWithinDay := by
    constructor <;> decide
  rcases claimed toLastNoon fromEvening none mayDay ⟨8208562766400000000000, by decide⟩ rfl day
    fourDigitYears_mayDay ascending_mayDay with ⟨bins, ok, -⟩ | ⟨fault, refused⟩
  · rw [ok] at exceeded
    cases exceeded
  · rw [refused] at exceeded
    cases exceeded

end Window

end SeriesScript
