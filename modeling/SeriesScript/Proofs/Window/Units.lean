import SeriesScript.Proofs.Window.Boundaries

/-!
# Calendar units

The units of an anchor are numbered, and each starts where the one before it ends. The number of the
unit that holds a local time and the start of a unit determine each other: a unit has started by a
time exactly if its number is not above that of the time. So truncation gives the start of the unit
that holds a time, and a window of one unit leads from each start to the next.
-/
namespace SeriesScript

namespace Timestamp

open Calendar

variable {t u : Timestamp} {k : Int}

theorem representable_iff {instant : Int} : representable instant ↔
    firstDay * nanosPerDay ≤ instant ∧ instant < (lastDay + 1) * nanosPerDay := by
  simp [representable]

@[simp] theorem clock_ofClock (shown offset : Int) : (ofClock shown offset).clock = shown := by
  simp [clock, ofClock]

theorem clock_of_ofClock? {shown offset : Int} (h : ofClock? shown offset = some u) :
    u.clock = shown := by
  rw [eq_of_checked? h, clock_ofClock]

theorem clock_of_plus? {nanos : Int} (h : t.plus? nanos = some u) : u.clock = t.clock + nanos := by
  rw [eq_of_checked? h]
  simp only [clock, plus]
  omega

theorem clock_of_onDay? {day : Int} (midnight : t.timeOfDay = 0) (h : t.onDay? day = some u) :
    u.clock = day * nanosPerDay := by
  rw [onDay?] at h
  split at h
  · rw [clock_of_ofClock? h, midnight, Int.add_zero]
  · cases h

theorem day_of_midnight (h : t.clock = k * nanosPerDay) : t.day = k ∧ t.timeOfDay = 0 := by
  simp [day, timeOfDay, h, nanosPerDay]

/-- Some months after midnight on the first of a month, it is midnight on the first of a month. -/
theorem clock_of_plusMonths? {count : Int} (start : t.clock = monthStart k * nanosPerDay)
    (h : t.plusMonths? count = some u) : u.clock = monthStart (k + count) * nanosPerDay := by
  obtain ⟨day, midnight⟩ := day_of_midnight start
  rw [plusMonths?] at h
  split at h
  · rename_i none
    cases h
    rw [start, none, Int.add_zero]
  · rw [clock_of_onDay? midnight h, day, shiftMonths_monthStart]

theorem clock_of_plusDays? {count : Int} (start : t.clock = k * nanosPerDay)
    (h : t.plusDays? count = some u) : u.clock = (k + count) * nanosPerDay := by
  obtain ⟨day, midnight⟩ := day_of_midnight start
  rw [plusDays?] at h
  split at h
  · rename_i none
    cases h
    rw [start, none, Int.add_zero]
  · rw [clock_of_onDay? midnight h, day]

end Timestamp

namespace Window.Anchor

open Calendar

variable {anchor : Anchor} {first : Weekday} {clock k count : Int} {t stop : Timestamp}

def unit : Anchor → TimeAmount
  | hour => .duration .hour
  | day => .period ⟨0, 0, 1⟩
  | week => .period ⟨0, 0, 7⟩
  | month => .period ⟨0, 1, 0⟩
  | quarter => .period ⟨0, 3, 0⟩
  | halfYear => .period ⟨0, 6, 0⟩
  | year => .period ⟨1, 0, 0⟩

@[simp] theorem ofWindow_unit (anchor : Anchor) : ofWindow anchor.unit = anchor := by
  cases anchor <;> decide

/-- The number of the unit that holds a local time: of hours, days and weeks since some start, and
of months, quarters, half years and years since the year 0. -/
def ordinal (first : Weekday) (clock : Int) : Anchor → Int
  | hour => clock / nanosPerHour
  | day => clock / nanosPerDay
  | week => (clock / nanosPerDay + 3 - first.index) / 7
  | month => monthOf (clock / nanosPerDay)
  | quarter => monthOf (clock / nanosPerDay) / 3
  | halfYear => monthOf (clock / nanosPerDay) / 6
  | year => monthOf (clock / nanosPerDay) / 12

def startOf (first : Weekday) (number : Int) : Anchor → Int
  | hour => number * nanosPerHour
  | day => number * nanosPerDay
  | week => (number * 7 - 3 + first.index) * nanosPerDay
  | month => monthStart number * nanosPerDay
  | quarter => monthStart (number * 3) * nanosPerDay
  | halfYear => monthStart (number * 6) * nanosPerDay
  | year => monthStart (number * 12) * nanosPerDay

theorem startOf_le_iff :
    anchor.startOf first k ≤ clock ↔ k ≤ anchor.ordinal first clock := by
  have days (day : Int) : day * nanosPerDay ≤ clock ↔ day ≤ clock / nanosPerDay :=
    (Int.le_ediv_iff_mul_le (by decide)).symm
  cases anchor with
  | hour => exact (Int.le_ediv_iff_mul_le (by decide)).symm
  | day => exact days k
  | week =>
    rw [startOf, ordinal, days]
    omega
  | month => rw [startOf, ordinal, days, monthStart_le_iff]
  | quarter | halfYear | year =>
    rw [startOf, ordinal, days, monthStart_le_iff]
    exact (Int.le_ediv_iff_mul_le (by decide)).symm

theorem startOf_lt_succ (anchor : Anchor) (first : Weekday) (k : Int) :
    anchor.startOf first k < anchor.startOf first (k + 1) := by
  have months {a b : Int} (lt : a < b) : monthStart a * nanosPerDay < monthStart b * nanosPerDay :=
    Int.mul_lt_mul_of_pos_right (monthStart_lt_monthStart_iff.mpr lt) (by decide)
  cases anchor with
  | hour | day | week =>
    simp only [startOf, nanosPerHour, nanosPerDay]
    omega
  | month | quarter | halfYear | year => exact months (by omega)

theorem startOf_mono (first : Weekday) {j : Int} (le : j ≤ k) :
    anchor.startOf first j ≤ anchor.startOf first k :=
  (strictMono_int_of_lt_succ (startOf_lt_succ anchor first)).monotone le

theorem ordinal_mono (first : Weekday) {later : Int} (le : clock ≤ later) :
    anchor.ordinal first clock ≤ anchor.ordinal first later :=
  startOf_le_iff.mp ((startOf_le_iff.mpr le_rfl).trans le)

@[simp] theorem ordinal_startOf (anchor : Anchor) (first : Weekday) (k : Int) :
    anchor.ordinal first (anchor.startOf first k) = k := by
  have started : k ≤ anchor.ordinal first (anchor.startOf first k) := startOf_le_iff.mp le_rfl
  have next := startOf_lt_succ anchor first k
  rw [← not_le, startOf_le_iff] at next
  omega

/-- A time lies in the unit whose start it has reached, if it has not reached the next one. -/
theorem ordinal_eq (low : anchor.startOf first k ≤ clock)
    (high : clock < anchor.startOf first (k + 1)) : anchor.ordinal first clock = k := by
  rw [startOf_le_iff] at low
  rw [← not_le, startOf_le_iff] at high
  omega

/-- Truncation gives the start of the unit, except for weeks, which may start before the calendar.
-/
theorem floor_eq_startOf_of_ne_week (h : anchor ≠ week) :
    anchor.floor first clock = anchor.startOf first (anchor.ordinal first clock) := by
  cases anchor with
  | week => exact absurd rfl h
  | month =>
    simp [floor, dayFloor, monthsFloor, startOf, ordinal]
  | hour | day | quarter | halfYear | year => rfl

/-- Truncation gives the start of the unit, unless it is a week that starts before the calendar. -/
theorem floor_eq_startOf
    (inside : firstDay * nanosPerDay ≤ anchor.startOf first (anchor.ordinal first clock)) :
    anchor.floor first clock = anchor.startOf first (anchor.ordinal first clock) := by
  by_cases weekly : anchor = week
  · subst weekly
    have start : weekStart first (clock / nanosPerDay) =
        (clock / nanosPerDay + 3 - first.index) / 7 * 7 - 3 + first.index := by
      rw [weekStart, weekdayIndex]
      omega
    rw [startOf, ordinal, ← start] at inside ⊢
    have dated := Int.le_of_mul_le_mul_right inside (by decide)
    simp only [floor, dayFloor, dated, ↓reduceIte]
  · exact floor_eq_startOf_of_ne_week weekly

theorem floor_startOf (inside : firstDay * nanosPerDay ≤ anchor.startOf first k) :
    anchor.floor first (anchor.startOf first k) = anchor.startOf first k := by
  rw [floor_eq_startOf (by rwa [ordinal_startOf]), ordinal_startOf]

/-- The unit that holds a time begins within the calendar, by its local date and by its instant. -/
def BeginsWithin (anchor : Anchor) (first : Weekday) (t : Timestamp) : Prop :=
  firstDay * nanosPerDay ≤ anchor.startOf first (anchor.ordinal first t.clock) ∧
    Timestamp.representable
      (Timestamp.ofClock (anchor.startOf first (anchor.ordinal first t.clock)) t.offset).instant

instance (anchor : Anchor) (first : Weekday) (t : Timestamp) :
    Decidable (anchor.BeginsWithin first t) := inferInstanceAs (Decidable (_ ∧ _))

theorem clock_beginning (within : anchor.BeginsWithin first t) :
    (beginning anchor.unit first t).clock = anchor.startOf first (anchor.ordinal first t.clock) := by
  obtain ⟨dated, reached⟩ := within
  rw [beginning, ofWindow_unit, floor_eq_startOf dated, Timestamp.ofClock?, Timestamp.checked?,
    if_pos reached]
  exact Timestamp.clock_ofClock _ _

/-- Units that hold a time of the second year of the calendar, or a later one, begin within it. -/
theorem beginsWithin_of_le (valid : Timestamp.representable t.instant)
    (ahead : t.offset * nanosPerSecond ≤ nanosPerDay)
    (later : yearStart (-262142) * nanosPerDay ≤ t.clock) : anchor.BeginsWithin first t := by
  have secondYear : (firstDay + 1) * nanosPerDay ≤ anchor.startOf first
      (anchor.ordinal first (yearStart (-262142) * nanosPerDay)) := by
    cases anchor <;> cases first <;> decide +kernel
  have low := secondYear.trans (startOf_mono first (ordinal_mono first later))
  have high : anchor.startOf first (anchor.ordinal first t.clock) ≤ t.clock :=
    startOf_le_iff.mpr le_rfl
  have positive : 0 < nanosPerDay := by decide
  rw [BeginsWithin]
  generalize anchor.startOf first (anchor.ordinal first t.clock) = start at low high ⊢
  rw [Int.add_mul] at low
  rw [Timestamp.clock] at high
  simp only [Timestamp.representable_iff, Timestamp.ofClock] at valid ⊢
  omega

/-! ## From one unit to the next -/

theorem advance?_period_eq_some {p : Period} (h : advance? (.period p) t = some stop) :
    ∃ shifted, t.plusMonths? p.totalMonths = some shifted ∧
      shifted.plusDays? p.days.toInt = some stop := by
  rw [advance?] at h
  split at h
  · rename_i shifted months
    exact ⟨shifted, months, h⟩
  · cases h

theorem clock_of_advance?_days {p : Period} (start : t.clock = k * nanosPerDay)
    (months : p.totalMonths = 0) (days : p.days.toInt = count)
    (h : advance? (.period p) t = some stop) : stop.clock = (k + count) * nanosPerDay := by
  obtain ⟨shifted, later, latest⟩ := advance?_period_eq_some h
  rw [months, Timestamp.plusMonths?, if_pos rfl] at later
  cases later
  rw [Timestamp.clock_of_plusDays? start latest, days]

/-- Some months after midnight on the first of a month, a window of whole months ends at midnight on
the first of a month. -/
theorem clock_of_advance?_months {p : Period} (start : t.clock = monthStart k * nanosPerDay)
    (months : p.totalMonths = count) (days : p.days.toInt = 0)
    (h : advance? (.period p) t = some stop) :
    stop.clock = monthStart (k + count) * nanosPerDay := by
  obtain ⟨shifted, later, latest⟩ := advance?_period_eq_some h
  rw [days, Timestamp.plusDays?, if_pos rfl] at latest
  cases latest
  rw [Timestamp.clock_of_plusMonths? start later, months]

/-- A window of one unit leads from the start of each unit to the start of the next. -/
theorem clock_of_advance? (start : t.clock = anchor.startOf first k)
    (h : advance? anchor.unit t = some stop) : stop.clock = anchor.startOf first (k + 1) := by
  cases anchor with
  | hour =>
    have later : t.plus? Duration.hour.nanos = some stop := h
    rw [Timestamp.clock_of_plus? later, start, startOf, startOf, Int.add_mul, Int.one_mul]
    rfl
  | day => exact clock_of_advance?_days start (by decide) (by decide) h
  | week =>
    have days : Int32.toInt 7 = 7 := by decide
    rw [clock_of_advance?_days start (by decide) days h, startOf]
    congr 1
    omega
  | month => exact clock_of_advance?_months start (by decide) (by decide) h
  | quarter | halfYear | year =>
    rw [startOf, Int.add_mul, Int.one_mul]
    exact clock_of_advance?_months start (by decide) (by decide) h

end Window.Anchor

end SeriesScript
