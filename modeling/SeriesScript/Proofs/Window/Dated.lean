import SeriesScript.Proofs.Window.Units

/-!
# Times within the calendar

A timestamp lies within the calendar by its instant and by the date that its own clock shows. Both
bounds are bounds of a clock, so whatever lies between two timestamps of one offset that are within
the calendar is within it too. Windows begin within the calendar, and steps of calendar periods stay
within it. A time between the beginning of a window and a time that it holds has the same beginning.
-/
namespace SeriesScript

open Calendar

namespace Timestamp

variable {t u v : Timestamp} {k count : Int}

/-- The calendar has the instant, and the date on the local clock. -/
def InCalendar (t : Timestamp) : Prop := representable t.instant ∧ hasDate t.day

instance (t : Timestamp) : Decidable t.InCalendar := inferInstanceAs (Decidable (_ ∧ _))

/-- A local date is in the calendar if the clock, read as an instant, is. -/
theorem hasDate_day_iff : hasDate t.day ↔ representable t.clock := by
  have begun : firstDay ≤ t.day ↔ firstDay * nanosPerDay ≤ t.clock :=
    Int.le_ediv_iff_mul_le (by decide)
  have ended : t.day < lastDay + 1 ↔ t.clock < (lastDay + 1) * nanosPerDay :=
    Int.ediv_lt_iff_lt_mul (by decide)
  rw [representable_iff, ← begun, ← ended, Int.lt_add_one_iff]
  simp [hasDate]

theorem eq_of_clock (clock : t.clock = u.clock) (offset : t.offset = u.offset) : t = u := by
  cases t
  cases u
  simp only [Timestamp.clock] at clock offset
  subst offset
  congr 1
  omega

theorem clock_le_clock_iff (h : t.offset = u.offset) : t.clock ≤ u.clock ↔ t.instant ≤ u.instant := by
  rw [clock, clock, h]
  omega

theorem clock_lt_clock_iff (h : t.offset = u.offset) : t.clock < u.clock ↔ t.instant < u.instant := by
  rw [← not_le, clock_le_clock_iff h.symm, not_le]

theorem representable_between {low high instant : Int} (hlow : representable low)
    (hhigh : representable high) (above : low ≤ instant) (below : instant ≤ high) :
    representable instant := by
  rw [representable_iff] at *
  omega

theorem InCalendar.between (low : t.InCalendar) (high : u.InCalendar) (ht : t.offset = v.offset)
    (hu : v.offset = u.offset) (above : t.instant ≤ v.instant) (below : v.instant ≤ u.instant) :
    v.InCalendar := by
  have lowClock := hasDate_day_iff.mp low.2
  have highClock := hasDate_day_iff.mp high.2
  exact ⟨representable_between low.1 high.1 above below,
    hasDate_day_iff.mpr (representable_between lowClock highClock
      ((clock_le_clock_iff ht).mpr above) ((clock_le_clock_iff hu).mpr below))⟩

/-! ## Calendar steps -/

theorem representable_of_checked? (h : t.checked? = some u) : representable u.instant := by
  rw [eq_of_checked? h]
  rw [checked?] at h
  split at h
  · assumption
  · cases h

theorem inCalendar_of_onDay? {day : Int} (h : t.onDay? day = some u) : u.InCalendar := by
  rw [onDay?] at h
  split at h
  · rename_i dated
    have shown := clock_of_ofClock? h
    have sameDay : u.day = day := by
      have small := Int.emod_lt_of_pos t.clock (show 0 < nanosPerDay by decide)
      have nonneg := Int.emod_nonneg t.clock (show nanosPerDay ≠ 0 by decide)
      rw [Timestamp.day, shown, timeOfDay]
      rw [nanosPerDay] at *
      omega
    exact ⟨representable_of_checked? h, sameDay ▸ dated⟩
  · cases h

/-- A step of months stays where it is or leads into the calendar. -/
theorem eq_or_inCalendar_of_plusMonths? (h : t.plusMonths? count = some u) :
    u = t ∨ u.InCalendar := by
  rw [Timestamp.plusMonths?] at h
  split at h
  · cases h
    exact .inl rfl
  · exact .inr (inCalendar_of_onDay? h)

theorem eq_or_inCalendar_of_plusDays? (h : t.plusDays? count = some u) : u = t ∨ u.InCalendar := by
  rw [Timestamp.plusDays?] at h
  split at h
  · cases h
    exact .inl rfl
  · exact .inr (inCalendar_of_onDay? h)

end Timestamp

namespace Window

variable {window : TimeAmount} {first : Weekday} {anchor : Anchor} {clock k : Int}
  {t u stop : Timestamp}

/-- A step of a calendar period stays where it is or leads into the calendar. -/
theorem eq_or_inCalendar_of_advance? {p : Period} (h : advance? (.period p) t = some stop) :
    stop = t ∨ stop.InCalendar := by
  obtain ⟨shifted, later, latest⟩ := Anchor.advance?_period_eq_some h
  rcases Timestamp.eq_or_inCalendar_of_plusDays? latest with rfl | within
  · exact Timestamp.eq_or_inCalendar_of_plusMonths? later
  · exact .inr within

theorem advance?_period_inCalendar {p : Period} (within : t.InCalendar)
    (h : advance? (.period p) t = some stop) : stop.InCalendar := by
  rcases eq_or_inCalendar_of_advance? h with rfl | inside
  · exact within
  · exact inside

theorem representable_of_advance? (within : Timestamp.representable t.instant)
    (h : advance? window t = some stop) : Timestamp.representable stop.instant := by
  cases window with
  | duration d =>
    have later : t.plus? d.nanos = some stop := h
    exact Timestamp.representable_of_checked? later
  | period p =>
    rcases eq_or_inCalendar_of_advance? h with rfl | inside
    · exact within
    · exact inside.1

/-! ## Floors -/

namespace Anchor

theorem dayFloor_week_eq_of_between {day earlier : Int} (low : dayFloor first day week ≤ earlier)
    (high : earlier ≤ day) : dayFloor first earlier week = dayFloor first day week := by
  by_cases dated : firstDay ≤ weekStart first day
  · have same : weekStart first earlier = weekStart first day := by
      simp only [dayFloor, dated, ↓reduceIte] at low
      rw [weekStart, weekStart, weekdayIndex, weekdayIndex] at *
      omega
    rw [dayFloor, dayFloor, same]
    simp only [dated, ↓reduceIte]
  · simp only [dayFloor, dated, ↓reduceIte] at low
    rw [le_antisymm high low]

/-- A time between the start of a unit and a time of the unit lies in the unit too. -/
theorem floor_eq_of_between {earlier : Int} (low : anchor.floor first clock ≤ earlier)
    (high : earlier ≤ clock) : anchor.floor first earlier = anchor.floor first clock := by
  by_cases weekly : anchor = week
  · subst weekly
    have begun := (Int.le_ediv_iff_mul_le (show 0 < nanosPerDay by decide)).mpr low
    have days := Int.ediv_le_ediv (show 0 < nanosPerDay by decide) high
    exact congrArg (· * nanosPerDay) (dayFloor_week_eq_of_between begun days)
  · rw [floor_eq_startOf_of_ne_week weekly] at low ⊢
    rw [floor_eq_startOf_of_ne_week weekly]
    have same : anchor.ordinal first earlier = anchor.ordinal first clock :=
      le_antisymm (ordinal_mono first high) (startOf_le_iff.mp low)
    rw [same]

/-- The calendar begins with a unit of each kind; a week is cut to begin within it. -/
theorem firstDay_le_floor (h : firstDay * nanosPerDay ≤ clock) :
    firstDay * nanosPerDay ≤ anchor.floor first clock := by
  by_cases weekly : anchor = week
  · subst weekly
    have begun := (Int.le_ediv_iff_mul_le (show 0 < nanosPerDay by decide)).mpr h
    refine Int.mul_le_mul_of_nonneg_right ?_ (by decide)
    simp only [dayFloor]
    split <;> assumption
  · rw [floor_eq_startOf_of_ne_week weekly]
    have opening : anchor.startOf first (anchor.ordinal first (firstDay * nanosPerDay)) =
        firstDay * nanosPerDay := by
      cases anchor with
      | week => exact absurd rfl weekly
      | hour | day | month | quarter | halfYear | year => cases first <;> decide +kernel
    rw [← opening]
    exact startOf_mono first (ordinal_mono first h)

end Anchor

/-! ## Beginnings -/

/-- Where a window begins depends on the window by its anchor alone. -/
theorem beginning_congr {other : TimeAmount} (h : Anchor.ofWindow window = Anchor.ofWindow other)
    (first : Weekday) (t : Timestamp) : beginning window first t = beginning other first t := by
  rw [beginning, beginning, h]

theorem beginning_inCalendar (within : t.InCalendar) : (beginning window first t).InCalendar := by
  rw [beginning]
  split
  · rename_i start h
    have shown := Timestamp.hasDate_day_iff.mp within.2
    rw [Timestamp.representable_iff] at shown
    refine ⟨Timestamp.representable_of_checked? h, Timestamp.hasDate_day_iff.mpr ?_⟩
    rw [Timestamp.clock_of_ofClock? h, Timestamp.representable_iff]
    exact ⟨Anchor.firstDay_le_floor shown.1, (Anchor.floor_le _ _ _).trans_lt shown.2⟩
  · exact within

/-- Between the beginning of a window and a time that it holds, all times have that beginning. -/
theorem beginning_eq_of_between (offset : u.offset = t.offset)
    (above : (beginning window first t).instant ≤ u.instant) (below : u.instant ≤ t.instant) :
    beginning window first u = beginning window first t := by
  have earlier := (Timestamp.clock_le_clock_iff offset).mpr below
  rw [beginning] at above
  split at above
  · rename_i start h
    have reached : start.clock ≤ u.clock :=
      (Timestamp.clock_le_clock_iff ((Timestamp.offset_of_ofClock? h).trans offset.symm)).mpr above
    rw [Timestamp.clock_of_ofClock? h] at reached
    rw [beginning, beginning, Anchor.floor_eq_of_between reached earlier, offset, h]
  · have same : u = t :=
      Timestamp.eq_of_clock (le_antisymm earlier ((Timestamp.clock_le_clock_iff offset.symm).mpr above))
        offset
    rw [same]

/-! ## Fixed windows -/

variable {prefs : Preferences} {hardStart : Option Timestamp} {earliest : Timestamp}
  {points : List Point} {bins : List Bin} {laid : List Tile}

theorem exists_earliest (prefs : Preferences) (hardStart : Option Timestamp) (h : points ≠ []) :
    ∃ earliest, earliest? prefs hardStart points = some earliest := by
  rw [← Option.isSome_iff_exists, Option.isSome_iff_ne_none]
  intro none
  exact h (eq_nil_of_earliest?_eq_none none)

theorem fixed_of_tiles (found : earliest? prefs hardStart points = some earliest)
    (within : earliest.InCalendar)
    (ok : tiles window prefs (latest prefs points earliest)
      (beginning window prefs.firstDayOfWeek earliest) = .ok laid) :
    fixed window prefs hardStart points = .ok (fill prefs laid points) := by
  rw [fixed, found]
  simp only [within.1, within.2, ok, Bool.and_self, ↓reduceIte]

/-- Where there are bins, the earliest time to be covered is within the calendar. -/
theorem exists_tiles_of_fixed (found : earliest? prefs hardStart points = some earliest)
    (h : fixed window prefs hardStart points = .ok bins) :
    earliest.InCalendar ∧ ∃ laid, tiles window prefs (latest prefs points earliest)
      (beginning window prefs.firstDayOfWeek earliest) = .ok laid ∧ bins = fill prefs laid points := by
  rw [fixed, found] at h
  simp only at h
  split at h
  · rename_i within
    rw [Bool.and_eq_true] at within
    split at h
    · rename_i laid ok
      cases h
      exact ⟨within, laid, ok, rfl⟩
    · cases h
  · cases h

/-- Bins are known by what can be computed from them. -/
theorem exists_bins {α : Type} {f : List Bin → α} {a : α} {r : Except ScriptError (List Bin)}
    (h : r.toOption.map f = some a) : ∃ bins, r = .ok bins ∧ f bins = a := by
  cases r with
  | error e => cases h
  | ok bins => exact ⟨bins, rfl, Option.some.inj h⟩

end Window

end SeriesScript
